/-
**Tables as maps.**

* `mem_keys`: a key is one of the keys of a table exactly if there is a value under it;
* `get?_filter`, `get?_erase_of_ne`, `get?_setAll`: what stands under a key after a change;
* `set_of_get?_none`, `set_eq_alter`: to set a value appends an entry, or changes one in its place;
* `Table.mapValues`: another value in the place of each one, which goes along with all changes;
* `Table.Distinct`: no key occurs twice;
* `Table.Each`: all entries of a table have a property;
* `Table.Aligned`: two tables have the same keys in the same order, and what stands under the same
  key is related. `Aligned.set` and `Aligned.erase` say that changes under the same key keep it.
-/

import DocQuery.Table

namespace DocQuery

namespace Table

variable {α β : Type}

/-! ### Values and keys -/

theorem mem_keys {table : Table α} {key : String} :
    key ∈ table.keys ↔ ∃ value, table.get? key = some value := by
  induction table with
  | nil => simp [keys, get?]
  | cons entry more ih =>
    obtain ⟨name, value⟩ := entry
    rw [show keys ((name, value) :: more) = name :: keys more from rfl, List.mem_cons, ih, get?]
    by_cases same : name = key
    · rw [if_pos same]
      exact ⟨fun _ => ⟨value, rfl⟩, fun _ => .inl same.symm⟩
    · rw [if_neg same]
      exact or_iff_right fun equal => same equal.symm

theorem mem_of_get? {table : Table α} {key : String} {value : α}
    (found : table.get? key = some value) : (key, value) ∈ table := by
  induction table with
  | nil => cases found
  | cons entry more ih =>
    rw [get?] at found
    split at found
    · next same =>
      cases found
      subst same
      exact List.mem_cons_self
    · exact List.mem_cons_of_mem entry (ih found)

theorem get?_eq_none {table : Table α} {key : String} :
    table.get? key = none ↔ key ∉ table.keys := by
  rw [mem_keys]
  cases found : table.get? key <;> simp

/-- A filter that keeps whatever stands under a key. -/
theorem get?_filter {table : Table α} {key : String} {keeps : String × α → Bool}
    (kept : ∀ value, keeps (key, value)) : get? (table.filter keeps) key = table.get? key := by
  induction table with
  | nil => rfl
  | cons entry more ih =>
    obtain ⟨name, value⟩ := entry
    rw [get?, List.filter_cons]
    by_cases same : name = key
    · subst same
      rw [if_pos (kept value), if_pos rfl]
      exact if_pos rfl
    · rw [if_neg same, ← ih]
      split
      · exact if_neg same
      · rfl

/-- A filter that keeps whatever stands under a key can come before a change of it, or after. -/
theorem filter_set {table : Table α} {key : String} {keeps : String × α → Bool}
    (kept : ∀ value, keeps (key, value)) (value : α) :
    (table.set key value).filter keeps = Table.set (table.filter keeps) key value := by
  induction table with
  | nil => exact List.filter_cons_of_pos (kept value)
  | cons entry more ih =>
    obtain ⟨name, old⟩ := entry
    by_cases same : name = key
    · subst same
      rw [set, if_pos rfl, List.filter_cons_of_pos (kept value),
        List.filter_cons_of_pos (kept old), set, if_pos rfl]
    · rw [set, if_neg same, List.filter_cons, List.filter_cons, ih]
      split
      · rw [set, if_neg same]
      · rfl

theorem keys_erase (table : Table α) (key : String) :
    (table.erase key).keys = table.keys.filter (· != key) := by
  unfold erase keys
  rw [List.filter_map]
  rfl

theorem get?_erase_self (table : Table α) (key : String) : (table.erase key).get? key = none := by
  rw [get?_eq_none, keys_erase, List.mem_filter]
  simp

theorem get?_erase_of_ne (table : Table α) {key other : String} (different : other ≠ key) :
    (table.erase key).get? other = table.get? other :=
  get?_filter fun _ => bne_iff_ne.mpr different

/-- To put a value behind all others leaves what stands under other keys. -/
theorem get?_erase_set_of_ne (table : Table α) {key other : String} (value : α)
    (different : other ≠ key) :
    ((table.erase key).set key value).get? other = table.get? other :=
  (get?_set_of_ne _ value different).trans (get?_erase_of_ne table different)

/-! ### Several changes -/

/-- Of several values added under a key, the last one counts. -/
theorem get?_setAll {table additions : Table α} {key : String} :
    (table.setAll additions).get? key =
      ((additions.reverse.find? fun entry => entry.1 == key).map Prod.snd).or (table.get? key) := by
  induction additions generalizing table with
  | nil => rfl
  | cons addition more ih =>
    obtain ⟨name, value⟩ := addition
    show ((table.set name value).setAll more).get? key = _
    rw [ih, List.reverse_cons, List.find?_append, Option.map_or, Option.or_assoc]
    congr
    by_cases same : name = key
    · simp [same]
    · rw [get?_set_of_ne _ _ (Ne.symm same)]
      simp [same]

theorem get?_ofPairs {pairs : Table α} {key : String} :
    (ofPairs pairs).get? key = (pairs.reverse.find? fun entry => entry.1 == key).map Prod.snd :=
  get?_setAll.trans Option.or_none

theorem mem_of_get?_ofPairs {pairs : Table α} {key : String} {value : α}
    (found : (ofPairs pairs).get? key = some value) : (key, value) ∈ pairs := by
  rw [get?_ofPairs, Option.map_eq_some_iff] at found
  obtain ⟨⟨name, _⟩, isEntry, rfl⟩ := found
  obtain rfl : name = key := by simpa using List.find?_some isEntry
  exact List.mem_reverse.mp (List.mem_of_find?_eq_some isEntry)

theorem get?_setAll_of_notMem {table additions : Table α} {key : String}
    (absent : key ∉ additions.keys) : (table.setAll additions).get? key = table.get? key := by
  have none : additions.reverse.find? (fun entry => entry.1 == key) = none := by
    rw [List.find?_eq_none]
    rintro entry member same
    refine absent (List.mem_map.mpr ⟨entry, List.mem_reverse.mp member, ?_⟩)
    exact beq_iff_eq.mp same
  rw [get?_setAll, none]
  rfl

/-- Of several changes under different keys, each one counts. -/
theorem get?_setAll_of_get? {table additions : Table α} {key : String} {value : α}
    (distinct : additions.keys.Nodup) (added : additions.get? key = some value) :
    (table.setAll additions).get? key = some value := by
  induction additions generalizing table with
  | nil => cases added
  | cons addition more ih =>
    obtain ⟨name, first⟩ := addition
    obtain ⟨alone, distinctMore⟩ := List.nodup_cons.mp distinct
    show ((table.set name first).setAll more).get? key = _
    rw [get?] at added
    by_cases same : name = key
    · rw [if_pos same] at added
      cases added
      subst same
      rw [get?_setAll_of_notMem alone, get?_set_self]
    · rw [if_neg same] at added
      exact ih distinctMore added

/-- Of two values set under a key, the later one counts. -/
theorem set_set (table : Table α) (key : String) (first second : α) :
    (table.set key first).set key second = table.set key second := by
  induction table with
  | nil => simp [set]
  | cons entry more ih => by_cases same : entry.1 = key <;> simp [set, same, ih]

/-! ### Distinct keys -/

/-- No key occurs twice. -/
def Distinct (table : Table α) : Prop := table.keys.Nodup

theorem distinct_nil : Distinct ([] : Table α) := List.nodup_nil

theorem Distinct.set {table : Table α} (distinct : table.Distinct) (key : String) (value : α) :
    (table.set key value).Distinct := by
  unfold Distinct
  rw [keys_set]
  split
  · exact distinct
  · next absent =>
    refine List.nodup_append.mpr ⟨distinct, by simp, ?_⟩
    rintro name inTable _ inOther rfl
    rw [List.mem_singleton] at inOther
    exact absent (inOther ▸ inTable)

theorem Distinct.erase {table : Table α} (distinct : table.Distinct) (key : String) :
    (table.erase key).Distinct := by
  unfold Distinct
  rw [keys_erase]
  exact List.Pairwise.filter _ distinct

/-- With distinct keys, an entry is what stands under its key. -/
theorem Distinct.get?_of_mem {table : Table α} (distinct : table.Distinct) {key : String}
    {value : α} (member : (key, value) ∈ table) : table.get? key = some value := by
  induction table with
  | nil => cases member
  | cons entry more ih =>
    obtain ⟨name, first⟩ := entry
    obtain ⟨alone, distinctMore⟩ := List.nodup_cons.mp distinct
    obtain same | behind := List.mem_cons.mp member
    · cases same
      exact if_pos rfl
    · have other : name ≠ key := by
        rintro rfl
        exact alone (List.mem_map.mpr ⟨_, behind, rfl⟩)
      exact (if_neg other).trans (ih distinctMore behind)

/-! ### Changes in place and at the end -/

/-- A new key comes with an entry behind all others. -/
theorem set_of_get?_none {table : Table α} {key : String} (absent : table.get? key = none)
    (value : α) : table.set key value = table ++ [(key, value)] := by
  induction table with
  | nil => rfl
  | cons entry more ih =>
    obtain ⟨name, old⟩ := entry
    rw [get?] at absent
    split at absent
    · cases absent
    · next other => rw [set, if_neg other, ih absent, List.cons_append]

/-- To set the value that is there changes nothing. -/
theorem set_of_get? {table : Table α} {key : String} {value : α}
    (found : table.get? key = some value) : table.set key value = table := by
  induction table with
  | nil => cases found
  | cons entry more ih =>
    obtain ⟨name, old⟩ := entry
    rw [get?] at found
    rw [set]
    split at found
    · next same =>
      cases found
      rw [if_pos same]
    · next other => rw [if_neg other, ih found]

/-- To set a value under a key that is there changes nothing behind it. -/
theorem set_append_of_get? {table : Table α} {key : String} {old : α}
    (found : table.get? key = some old) (value : α) (more : Table α) :
    Table.set (table ++ more) key value = table.set key value ++ more := by
  induction table with
  | nil => cases found
  | cons entry rest ih =>
    obtain ⟨name, first⟩ := entry
    rw [get?] at found
    rw [List.cons_append, set, set]
    split at found
    · next same => rw [if_pos same, if_pos same, List.cons_append]
    · next other => rw [if_neg other, if_neg other, ih found, List.cons_append]

/-- New keys come with entries behind all others. -/
theorem setAll_of_notMem {table additions : Table α} (distinct : additions.keys.Nodup)
    (absent : ∀ key ∈ additions.keys, key ∉ table.keys) :
    table.setAll additions = table ++ additions := by
  induction additions generalizing table with
  | nil => exact (List.append_nil table).symm
  | cons addition more ih =>
    obtain ⟨key, value⟩ := addition
    obtain ⟨alone, distinctMore⟩ := List.nodup_cons.mp distinct
    obtain ⟨new, newMore⟩ := List.forall_mem_cons.mp absent
    show (table.set key value).setAll more = _
    rw [set_of_get?_none (get?_eq_none.mpr new), ih distinctMore, List.append_assoc]
    · rfl
    · intro name isMore present
      rw [keys, List.map_append, List.mem_append] at present
      obtain old | same := present
      · exact newMore name isMore old
      · exact alone (List.mem_singleton.mp same ▸ isMore)

/-- The value under a key is changed in its place. -/
def alter (table : Table α) (key : String) (change : α → α) : Table α :=
  table.map fun entry => if entry.1 = key then (entry.1, change entry.2) else entry

theorem alter_of_notMem {table : Table α} {key : String} (absent : key ∉ table.keys)
    (change : α → α) : table.alter key change = table := by
  refine (List.map_congr_left fun entry member => if_neg ?_).trans (List.map_id _)
  rintro rfl
  exact absent (List.mem_map_of_mem member)

/-- To set a value under a key that is there is to change it in its place. -/
theorem set_eq_alter {table : Table α} (distinct : table.Distinct) {key : String} {old value : α}
    (found : table.get? key = some old) {change : α → α} (same : change old = value) :
    table.set key value = table.alter key change := by
  induction table with
  | nil => cases found
  | cons entry more ih =>
    obtain ⟨name, first⟩ := entry
    obtain ⟨alone, distinctMore⟩ := List.nodup_cons.mp distinct
    show _ = (if name = key then (name, change first) else (name, first)) :: alter more key change
    rw [get?] at found
    split at found
    · next isKey =>
      subst isKey
      cases found
      rw [set, if_pos rfl, if_pos rfl, same, alter_of_notMem alone]
    · next other => rw [set, if_neg other, if_neg other, ih distinctMore found]

theorem get?_alter_self (table : Table α) (key : String) (change : α → α) :
    (table.alter key change).get? key = (table.get? key).map change := by
  induction table with
  | nil => rfl
  | cons entry more ih =>
    obtain ⟨name, value⟩ := entry
    by_cases same : name = key
    · simp [alter, get?, same]
    · simp only [alter, List.map_cons, get?, same, if_false] at ih ⊢
      exact ih

/-! ### Other values -/

/-- A table with another value in the place of each one. -/
def mapValues (image : α → β) (table : Table α) : Table β :=
  table.map fun entry => (entry.1, image entry.2)

section

variable (image : α → β)

theorem keys_mapValues (table : Table α) : (mapValues image table).keys = table.keys :=
  List.map_map

theorem get?_mapValues (table : Table α) (key : String) :
    (mapValues image table).get? key = (table.get? key).map image := by
  induction table with
  | nil => rfl
  | cons entry more ih =>
    show (if entry.1 = key then some (image entry.2) else (mapValues image more).get? key) = _
    rw [ih, get?]
    split <;> rfl

theorem mapValues_set (table : Table α) (key : String) (value : α) :
    mapValues image (table.set key value) = (mapValues image table).set key (image value) := by
  induction table with
  | nil => rfl
  | cons entry more ih =>
    obtain ⟨name, old⟩ := entry
    simp only [mapValues, List.map_cons, set] at ih ⊢
    rw [← ih]
    split <;> rfl

theorem mapValues_erase (table : Table α) (key : String) :
    mapValues image (table.erase key) = (mapValues image table).erase key := by
  unfold mapValues erase
  rw [List.filter_map]
  rfl

end

/-! ### Entries with a property -/

/-- All entries of a table have a property. -/
def Each (property : String → α → Prop) (table : Table α) : Prop :=
  ∀ key value, table.get? key = some value → property key value

section

variable {property : String → α → Prop} {table : Table α}

theorem each_nil : Each property [] := fun _ _ found => nomatch found

theorem Each.set (each : Each property table) {key : String} {value : α}
    (holds : property key value) : Each property (table.set key value) := by
  intro other found isFound
  by_cases same : other = key
  · subst same
    rw [get?_set_self] at isFound
    cases isFound
    exact holds
  · rw [get?_set_of_ne _ _ same] at isFound
    exact each other found isFound

theorem Each.erase (each : Each property table) (key : String) :
    Each property (table.erase key) := by
  intro other found isFound
  by_cases same : other = key
  · subst same
    rw [get?_erase_self] at isFound
    cases isFound
  · rw [get?_erase_of_ne _ same] at isFound
    exact each other found isFound

end

/-! ### Aligned tables -/

/-- Two tables have the same keys in the same order, and what stands under the same key is
related. -/
structure Aligned (relation : α → β → Prop) (left : Table α) (right : Table β) : Prop where
  keys : right.keys = left.keys
  related : ∀ key value other, left.get? key = some value → right.get? key = some other →
    relation value other

section

variable {relation : α → β → Prop} {left : Table α} {right : Table β}

theorem aligned_nil : Aligned relation [] [] := ⟨rfl, fun _ _ _ found => nomatch found⟩

/-- What stands under a key has a counterpart. -/
theorem Aligned.exists_get? (aligned : Aligned relation left right) {key : String} {value : α}
    (found : left.get? key = some value) :
    ∃ other, right.get? key = some other ∧ relation value other := by
  have present : key ∈ right.keys := aligned.keys ▸ mem_keys.mpr ⟨value, found⟩
  obtain ⟨other, isOther⟩ := mem_keys.mp present
  exact ⟨other, isOther, aligned.related key value other found isOther⟩

theorem keys_set_congr (same : right.keys = left.keys) (key : String) (value : α) (other : β) :
    (right.set key other).keys = (left.set key value).keys := by
  rw [keys_set, keys_set, same]

theorem keys_erase_congr (same : right.keys = left.keys) (key : String) :
    (right.erase key).keys = (left.erase key).keys := by
  rw [keys_erase, keys_erase, same]

theorem Aligned.set (aligned : Aligned relation left right) (key : String) {value : α} {other : β}
    (holds : relation value other) :
    Aligned relation (left.set key value) (right.set key other) := by
  refine ⟨keys_set_congr aligned.keys key value other, fun name first second isFirst isSecond => ?_⟩
  by_cases same : name = key
  · subst same
    rw [get?_set_self] at isFirst isSecond
    cases isFirst
    cases isSecond
    exact holds
  · rw [get?_set_of_ne _ _ same] at isFirst isSecond
    exact aligned.related name first second isFirst isSecond

theorem Aligned.erase (aligned : Aligned relation left right) (key : String) :
    Aligned relation (left.erase key) (right.erase key) := by
  refine ⟨keys_erase_congr aligned.keys key, fun name first second isFirst isSecond => ?_⟩
  by_cases same : name = key
  · subst same
    rw [get?_erase_self] at isFirst
    cases isFirst
  · rw [get?_erase_of_ne _ same] at isFirst isSecond
    exact aligned.related name first second isFirst isSecond

/-- To put under a key what is there already changes no keys. -/
theorem keys_set_of_get? {table : Table α} {key : String} {old : α}
    (found : table.get? key = some old) (value : α) : (table.set key value).keys = table.keys := by
  rw [keys_set, if_pos (mem_keys.mpr ⟨old, found⟩)]

/-- What stands on the right can change alone under a key that is there. -/
theorem Aligned.set_right (aligned : Aligned relation left right) {key : String} {value : α}
    (found : left.get? key = some value) {other : β} (holds : relation value other) :
    Aligned relation left (right.set key other) := by
  obtain ⟨old, isOld, -⟩ := aligned.exists_get? found
  have keys := (keys_set_of_get? isOld other).trans aligned.keys
  refine ⟨keys, fun name first second isFirst isSecond => ?_⟩
  by_cases same : name = key
  · subst same
    rw [get?_set_self] at isSecond
    rw [found] at isFirst
    cases isFirst
    cases isSecond
    exact holds
  · rw [get?_set_of_ne _ _ same] at isSecond
    exact aligned.related name first second isFirst isSecond

end

end Table

end DocQuery
