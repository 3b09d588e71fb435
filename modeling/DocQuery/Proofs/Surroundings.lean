/-
**Simple paths.**

* `pathNames_append`, `pathRoot_append`: a text of slashes and names has these slashes and names;
* `simplePath_simplePath`: a simple path is its own simple path.
-/

import DocQuery.Proofs.Text.Split
import DocQuery.Surroundings

namespace DocQuery

theorem splitOn_slash (text : String) : splitOn '/' ("/" ++ text) = "" :: splitOn '/' text := by
  rw [splitOn, String.toList_append]
  rfl

theorem mem_pathNames {path name : String} (member : name ∈ pathNames path) :
    '/' ∉ name.toList ∧ name ≠ "" := by
  obtain ⟨isPart, kept⟩ := List.mem_filter.mp member
  refine ⟨not_mem_of_mem_splitOn isPart, ?_⟩
  rintro rfl
  cases kept

theorem splitOn_pathNames {path : String} (some : pathNames path ≠ []) :
    splitOn '/' ("/".intercalate (pathNames path)) = pathNames path :=
  splitOn_intercalate rfl some fun _ member => (mem_pathNames member).1

theorem pathNames_intercalate (path : String) :
    pathNames ("/".intercalate (pathNames path)) = pathNames path := by
  by_cases none : pathNames path = []
  · rw [none]
    rfl
  · rw [pathNames, splitOn_pathNames none, pathNames, List.filter_filter]
    simp

theorem pathNames_slash (path : String) : pathNames ("/" ++ path) = pathNames path := by
  rw [pathNames, splitOn_slash]
  rfl

theorem pathRoot_cases (path : String) :
    pathRoot path = "//" ∨ pathRoot path = "/" ∨ pathRoot path = "" := by
  rw [pathRoot]
  split
  · exact .inl rfl
  · split
    · exact .inr (.inl rfl)
    · exact .inr (.inr rfl)

/-- No name begins with a slash. -/
theorem not_startsWith_names (path : String) :
    ¬ ['/'] <+: ("/".intercalate (pathNames path)).toList := by
  rintro ⟨rest, split⟩
  have slash : "/".intercalate (pathNames path) = "/" ++ String.ofList rest := by
    rw [← String.toList_inj, ← split, String.toList_append, @String.toList_ofList rest]
    rfl
  by_cases none : pathNames path = []
  · rw [none] at split
    cases split
  · have parts := splitOn_pathNames none
    rw [slash, splitOn_slash] at parts
    exact (mem_pathNames (parts ▸ List.mem_cons_self)).2 rfl

/-- Slashes in front of a text without one at its beginning are those of a path, if they are. -/
theorem pathRoot_append (path : String) {names : String} (plain : ¬ ['/'] <+: names.toList) :
    pathRoot (pathRoot path ++ names) = pathRoot path := by
  have root (text : String) : pathRoot text =
      if ['/', '/'] <+: text.toList ∧ ¬ ['/', '/', '/'] <+: text.toList then "//"
      else if ['/'] <+: text.toList then "/" else "" := by
    simp [pathRoot, String.startsWith_string_iff]
  have plain' : ¬ ['/', '/'] <+: names.toList := fun two =>
    plain ((List.prefix_append ['/'] ['/']).trans two)
  rw [root]
  rcases pathRoot_cases path with same | same | same <;>
    simp [same, plain, plain']

/-- Slashes in front of the names of a path change no name. -/
theorem pathNames_append (path : String) :
    pathNames (pathRoot path ++ "/".intercalate (pathNames path)) = pathNames path := by
  rcases pathRoot_cases path with same | same | same <;> rw [same]
  · rw [show "//" = "/" ++ "/" from rfl, String.append_assoc, pathNames_slash, pathNames_slash,
      pathNames_intercalate]
  · rw [pathNames_slash, pathNames_intercalate]
  · rw [String.empty_append, pathNames_intercalate]

/-- A simple path is its own simple path. -/
theorem simplePath_simplePath (path : String) : simplePath (simplePath path) = simplePath path := by
  have whole : simplePath path = "." ∨
      simplePath path = pathRoot path ++ "/".intercalate (pathNames path) := by
    rw [simplePath]
    split
    · exact .inl rfl
    · exact .inr rfl
  rcases whole with same | same
  · rw [same]
    decide +kernel
  · have root := pathRoot_append path (not_startsWith_names path)
    rw [same, simplePath, pathNames_append, root]
    exact same

theorem simplePath_ne_empty (path : String) : simplePath path ≠ "" := by
  rw [simplePath]
  split
  · decide
  · next some =>
    rintro empty
    rw [empty] at some
    exact some rfl

end DocQuery
