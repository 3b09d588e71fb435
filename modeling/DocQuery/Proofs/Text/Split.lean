/-
**The parts of a text between separators.**

* `splitAt_eq_splitOn`: characters are split as lists of the library are;
* `not_mem_of_mem_splitAt`: no part holds the separator;
* `splitOn_intercalate`: parts without separators that are put together with one between them are
  found again.
-/

import DocQuery.Text.Trim

namespace DocQuery

theorem splitAt_eq_splitOn (separator : Char) (cs : List Char) :
    splitAt separator cs = cs.splitOn separator := by
  induction cs with
  | nil => rfl
  | cons c rest ih =>
    rw [splitAt, ih, List.splitOn_cons_eq_if_modifyHead]
    by_cases same : c = separator
    · simp [same]
    · obtain ⟨part, parts, split⟩ := List.exists_cons_of_ne_nil (List.splitOn_ne_nil separator rest)
      simp [same, split]

theorem not_mem_of_mem_splitAt {separator : Char} {cs part : List Char}
    (member : part ∈ splitAt separator cs) : separator ∉ part := by
  induction cs generalizing part with
  | nil =>
    rw [List.mem_singleton.mp member]
    exact List.not_mem_nil
  | cons c rest ih =>
    rw [splitAt] at member
    split at member
    · obtain rfl | member := List.mem_cons.mp member
      · exact List.not_mem_nil
      · exact ih member
    · next other =>
      obtain ⟨first, parts, split⟩ := List.exists_cons_of_ne_nil
        (show splitAt separator rest ≠ [] from splitAt_eq_splitOn separator rest ▸
          List.splitOn_ne_nil separator rest)
      rw [split] at member ih
      obtain rfl | member := List.mem_cons.mp member
      · rintro (_ | ⟨_, inside⟩)
        · exact other rfl
        · exact ih List.mem_cons_self inside
      · exact ih (List.mem_cons_of_mem _ member)

theorem not_mem_of_mem_splitOn {separator : Char} {text part : String}
    (member : part ∈ splitOn separator text) : separator ∉ part.toList := by
  obtain ⟨cs, isPart, rfl⟩ := List.mem_map.mp member
  rw [String.toList_ofList]
  exact not_mem_of_mem_splitAt isPart

/-- Parts that are put together are found again. -/
theorem splitOn_intercalate {separator : Char} {joint : String}
    (isJoint : joint.toList = [separator]) {parts : List String} (some : parts ≠ [])
    (plain : ∀ part ∈ parts, separator ∉ part.toList) :
    splitOn separator (joint.intercalate parts) = parts := by
  have found : splitAt separator (joint.intercalate parts).toList = parts.map String.toList := by
    rw [splitAt_eq_splitOn, String.toList_intercalate, isJoint]
    refine List.splitOn_intercalate separator ?_ (by simpa using some)
    simpa using plain
  rw [splitOn, found, List.map_map]
  exact (List.map_congr_left fun part _ => String.ofList_toList).trans (List.map_id parts)

end DocQuery
