import LinkMonitor.Proofs.Store.Save

/-!
# The path of a file

The path of a file ends with a name, and what is above the name is a directory that can be reached: a
file that can be read can also be replaced, if there is room for the name of the temporary file.
-/

namespace LinkMonitor
namespace FileTree

variable {t : FileTree} {l r : Location}

/-- Everything above a location is a directory. -/
def Outer (t : FileTree) (l : Location) : Prop :=
  ∀ k, k <+: l → k ≠ l → t.find? k = some .directory

theorem outer_of_isTop (top : isTop l = true) : Outer t l := by
  intro k above other
  have small : k = [] := by
    cases l with
    | nil => exact List.prefix_nil.mp above
    | cons name names =>
      have single : name = "/" ∧ names = [] := by simpa [isTop] using top
      obtain ⟨rfl, rfl⟩ := single
      rcases List.prefix_cons_iff.mp above with none | ⟨others, rfl, further⟩
      · exact none
      · rw [List.prefix_nil.mp further] at other
        exact absurd rfl other
  rw [small]
  exact find?_of_isTop t rfl

theorem Outer.append {name : String} (outer : Outer t l) (here : t.find? l = some .directory) :
    Outer t (l ++ [name]) := by
  intro k above other
  rcases List.prefix_concat_iff.mp above with whole | above
  · exact absurd whole other
  · by_cases same : k = l
    · rw [same]; exact here
    · exact outer k above same

theorem Outer.parentOf (outer : Outer t l) : Outer t (parentOf l) := by
  unfold FileTree.parentOf
  split
  · exact outer
  · intro k above other
    have higher : k <+: l := above.trans (List.dropLast_prefix l)
    refine outer k higher fun same => ?_
    rw [same] at above
    have shorter := above.length_le
    cases l with
    | nil => exact other (List.prefix_nil.mp higher)
    | cons name names => simp at shorter

theorem Outer.find?_parentOf (outer : Outer t l) (here : t.find? l = some .directory) :
    t.find? (FileTree.parentOf l) = some .directory := by
  unfold FileTree.parentOf
  split
  · exact here
  · next low =>
    refine outer _ (List.dropLast_prefix l) fun same => ?_
    cases l with
    | nil => exact low rfl
    | cons name names =>
      have shorter := congrArg List.length same
      simp at shorter

/-- A walk passes through directories only. -/
theorem outer_of_walk {names : List String} (outer : Outer t l) (walked : t.walk l names = .ok r) :
    Outer t r := by
  induction names generalizing l with
  | nil => exact Except.ok.inj walked ▸ outer
  | cons name names ih =>
    rw [walk] at walked
    split at walked
    · cases walked
    · cases walked
    · next directory =>
      split at walked
      · exact ih outer.parentOf walked
      · split at walked
        · cases walked
        · exact ih (outer.append directory) walked

theorem isTop_start (p : Path) : isTop (if p.root.isEmpty then [] else ["/"]) = true := by
  split <;> rfl

/-- A path that leads to a file ends with the name of the file. -/
theorem named_of_contentAt {p : Path} {bytes : List UInt8} (content : t.contentAt p = .ok bytes) :
    ∃ name, p.names.getLast? = some name ∧ name ≠ ".." := by
  obtain ⟨l, reached, file⟩ := contentAt_eq_ok.mp content
  have walked : t.walk (if p.root.isEmpty then [] else ["/"]) p.names = .ok l := by
    rw [resolve] at reached
    split at reached
    · cases reached
    · exact reached
  cases last : p.names.getLast? with
  | none =>
    rw [List.getLast?_eq_none_iff.mp last] at walked
    rw [← Except.ok.inj walked, find?_of_isTop t (isTop_start p)] at file
    cases file
  | some name =>
    refine ⟨name, rfl, fun up => ?_⟩
    -- Two dots at the end lead to a directory, not to a file.
    obtain ⟨outer, split⟩ := List.getLast?_eq_some_iff.mp last
    rw [split, walk_append] at walked
    obtain ⟨d, before, inner⟩ := ok_of_bind walked
    have above := outer_of_walk (outer_of_isTop (isTop_start p)) before
    rw [up, walk] at inner
    split at inner
    · cases inner
    · cases inner
    · next directory =>
      rw [if_pos rfl] at inner
      cases inner
      rw [above.find?_parentOf directory] at file
      cases file

end FileTree

namespace Store

open FileTree

theorem size_intercalate_dropLast (s : String) (names : List String) :
    (s.intercalate names.dropLast).utf8ByteSize ≤ (s.intercalate names).utf8ByteSize := by
  induction names with
  | nil => exact Nat.le_refl _
  | cons a names ih =>
    cases names with
    | nil => exact Nat.zero_le _
    | cons b rest =>
      rw [List.dropLast_cons_cons, String.intercalate_cons_cons]
      cases others : (b :: rest).dropLast with
      | nil =>
        have alone : s.intercalate [a] = a := rfl
        rw [alone]
        simp only [String.utf8ByteSize_append]
        omega
      | cons c cs =>
        rw [others] at ih
        rw [String.intercalate_cons_cons]
        simp only [String.utf8ByteSize_append]
        omega

/-- The text of a path is no shorter than that of the path above it, unless this is a single dot. -/
theorem parent_text_size (p : Path) :
    p.parent.text.utf8ByteSize ≤ max 1 p.text.utf8ByteSize := by
  have shorter := size_intercalate_dropLast "/" p.names
  have dot : ".".utf8ByteSize = 1 := by decide
  unfold Path.text Path.parent
  dsimp only
  split
  · omega
  · next above =>
    have below : ¬(p.root.isEmpty && p.names.isEmpty) = true := by
      intro none
      rw [Bool.and_eq_true] at none above
      refine above ⟨none.1, ?_⟩
      rw [List.isEmpty_iff.mp none.2]
      rfl
    rw [if_neg below]
    simp only [String.utf8ByteSize_append]
    omega

theorem suitable_of_content {t : FileTree} {p : Path} {bytes : List UInt8}
    (content : t.contentAt p = .ok bytes)
    (short : (temporaryName p.name 0).utf8ByteSize ≤ maxNameSize) : Suitable p := by
  obtain ⟨l, reached, -⟩ := contentAt_eq_ok.mp content
  have whole := size_of_resolve reached
  have parent := parent_text_size p
  have room : maxPathSize = 4095 := rfl
  exact ⟨named_of_contentAt content, short, by omega⟩

end Store
end LinkMonitor
