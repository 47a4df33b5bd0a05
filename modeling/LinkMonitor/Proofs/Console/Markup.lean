import LinkMonitor.Console.Print
import LinkMonitor.Proofs.Host.Printing
import Mathlib.Data.List.TakeWhile

/-!
# Markup that can be printed

A text in which no tag begins is printed as it stands, and so is one whose tags are closed in order.
-/

namespace LinkMonitor
namespace Markup

/-! ### Tags -/

/-- The characters that a tag can begin with. -/
def startsTag (c : Char) : Bool := c.isLower || c == '#' || c == '/' || c == '@'

def inTag (c : Char) : Bool := c != '[' && c != ']'

/-- A tag stands between brackets and has none inside. -/
theorem tag?_eq_some_iff {s tag after : List Char} : tag? s = some (tag, after) ↔
    ∃ c body, startsTag c = true ∧ (∀ d ∈ body, inTag d = true) ∧ tag = c :: body ∧
      s = '[' :: (tag ++ ']' :: after) := by
  constructor
  · intro found
    unfold tag? at found
    dsimp only at found
    split at found
    · next c rest =>
      split at found
      · next starts closed =>
        cases found
        refine ⟨c, rest.takeWhile inTag, starts, ?_, rfl, ?_⟩
        · intro d member
          exact List.mem_takeWhile_imp member
        · have whole := List.takeWhile_append_dropWhile (p := inTag) (l := rest)
          have closed' : rest.dropWhile inTag = ']' :: after := closed
          rw [closed'] at whole
          rw [List.cons_append]
          exact congrArg (fun t => '[' :: c :: t) whole.symm
      · cases found
    · cases found
  · rintro ⟨c, body, starts, inside, rfl, rfl⟩
    have behind : (body ++ ']' :: after).dropWhile inTag = ']' :: after := by
      rw [List.dropWhile_append_of_pos inside]
      rfl
    have before : (body ++ ']' :: after).takeWhile inTag = body := by
      rw [List.takeWhile_append_of_pos inside]
      simp [inTag]
    unfold startsTag at starts
    unfold inTag at behind before
    rw [List.cons_append, tag?]
    dsimp only
    rw [starts, behind, before]
    rfl

/-- No tag begins anywhere in the text. -/
def Untagged (s : List Char) : Prop := ∀ t, t <:+ s → tag? t = none

theorem Untagged.of_suffix {s t : List Char} (untagged : Untagged s) (suffix : t <:+ s) :
    Untagged t :=
  fun _ further => untagged _ (further.trans suffix)

theorem untagged_of_notMem {s : List Char} (noBracket : '[' ∉ s) : Untagged s := by
  intro t suffix
  cases found : tag? t with
  | none => rfl
  | some result =>
    obtain ⟨c, body, -, -, -, rfl⟩ := tag?_eq_some_iff.mp found
    exact absurd (suffix.subset (List.mem_cons_self ..)) noBracket

theorem untagged_cons {c : Char} {s : List Char} :
    Untagged (c :: s) ↔ tag? (c :: s) = none ∧ Untagged s := by
  constructor
  · intro untagged
    exact ⟨untagged _ (List.suffix_refl _), untagged.of_suffix (List.suffix_cons c s)⟩
  · rintro ⟨here, later⟩ t suffix
    rcases List.suffix_cons_iff.mp suffix with rfl | further
    · exact here
    · exact later t further

theorem Untagged.append_left {front s : List Char} (noBracket : '[' ∉ front)
    (untagged : Untagged s) : Untagged (front ++ s) := by
  induction front with
  | nil => exact untagged
  | cons c front ih =>
    rw [List.mem_cons, not_or] at noBracket
    obtain ⟨other, rest⟩ := noBracket
    refine untagged_cons.mpr ⟨?_, ih rest⟩
    cases found : tag? (c :: (front ++ s)) with
    | none => rfl
    | some result =>
      obtain ⟨d, body, -, -, -, same⟩ := tag?_eq_some_iff.mp found
      exact absurd (List.cons.inj same).1.symm other

/-- Behind an untagged text a bracket that was left open stays so. -/
theorem Untagged.append_right {s back : List Char} (untagged : Untagged s) (opened : '[' ∉ back)
    (closed : ']' ∉ back) : Untagged (s ++ back) := by
  induction s with
  | nil => exact untagged_of_notMem opened
  | cons c s ih =>
    obtain ⟨here, later⟩ := untagged_cons.mp untagged
    refine untagged_cons.mpr ⟨?_, ih later⟩
    cases found : tag? (c :: (s ++ back)) with
    | none => rfl
    | some result =>
      obtain ⟨tag, after⟩ := result
      obtain ⟨d, body, starts, inside, rfl, same⟩ := tag?_eq_some_iff.mp found
      obtain ⟨rfl, behind⟩ := List.cons.inj same
      rcases List.append_eq_append_iff.mp behind with ⟨t, -, ends⟩ | ⟨t, early, ends⟩
      · exact absurd (by simp [ends]) closed
      · cases t with
        | nil =>
          obtain rfl : back = ']' :: after := ends.symm
          exact absurd (List.mem_cons_self ..) closed
        | cons x t =>
          -- The tag ends within the text itself.
          obtain ⟨rfl, -⟩ := List.cons.inj ends
          rw [tag?_eq_some_iff.mpr ⟨d, body, starts, inside, rfl, by rw [early]⟩] at here
          cases here

/-! ### Texts that have a plain text -/

theorem piecesFrom_of_plain {fuel position : Nat} {plain s : List Char} {c : Char}
    (here : tag? ((c :: s).drop ((c :: s).takeWhile (· == '\\')).length) = none) :
    piecesFrom (fuel + 1) position plain (c :: s) =
      piecesFrom fuel (position + 1) (c :: plain) s := by
  rw [piecesFrom.eq_def]
  dsimp only
  rw [here]

theorem piecesFrom_of_tag {fuel position : Nat} {plain s tag after : List Char}
    (here : tag? s = some (tag, after)) :
    piecesFrom (fuel + 1) position plain s =
      plainPiece plain ++ .tag tag position ::
        piecesFrom fuel (position + (s.length - after.length)) [] after := by
  obtain ⟨c, body, -, -, -, rfl⟩ := tag?_eq_some_iff.mp here
  have noBackslash : (('[' :: (tag ++ ']' :: after)).takeWhile (· == '\\')).length = 0 := by simp
  rw [piecesFrom.eq_def]
  dsimp only
  rw [noBackslash, List.drop_zero, here]
  simp [tagPieces]

/-- With these tags open, the rest of a text has a plain text, whatever emoji are known. -/
def Printable (opened : List String) (s : List Char) : Prop :=
  ∀ known fuel position plain,
    ∃ text, plainOf known opened (piecesFrom fuel position plain s) = .ok text

theorem exists_plainOf_plainPiece {known : Emoji.Known} {opened : List String} {rest : List Piece}
    {text : List Char} (found : plainOf known opened rest = .ok text) (reversed : List Char) :
    ∃ text, plainOf known opened (plainPiece reversed ++ rest) = .ok text := by
  unfold plainPiece
  split
  · exact ⟨text, found⟩
  · rw [List.singleton_append, plainOf, found]
    exact ⟨_, rfl⟩

theorem Printable.nil (opened : List String) : Printable opened [] := by
  intro known fuel position plain
  have last : piecesFrom fuel position plain [] = plainPiece plain ++ [] := by
    cases fuel <;> simp [piecesFrom, tag?]
  rw [last]
  exact exists_plainOf_plainPiece rfl plain

theorem Untagged.printable {s : List Char} (untagged : Untagged s) (opened : List String) :
    Printable opened s := by
  intro known fuel
  induction fuel generalizing s with
  | zero =>
    intro position plain
    exact Printable.nil opened known 0 position plain
  | succ fuel ih =>
    intro position plain
    cases s with
    | nil => exact Printable.nil opened known (fuel + 1) position plain
    | cons c s =>
      rw [piecesFrom_of_plain (untagged _ (List.drop_suffix ..))]
      exact ih (untagged.of_suffix (List.suffix_cons c s)) _ _

theorem Printable.append_left {opened : List String} {front s : List Char} (noBracket : '[' ∉ front)
    (noEscape : '\\' ∉ front) (prints : Printable opened s) : Printable opened (front ++ s) := by
  induction front with
  | nil => exact prints
  | cons c front ih =>
    rw [List.mem_cons, not_or] at noBracket noEscape
    have further := ih noBracket.2 noEscape.2
    have ordinary : ((c :: (front ++ s)).takeWhile (· == '\\')).length = 0 := by
      simp [Ne.symm noEscape.1]
    have noTag : tag? (c :: (front ++ s)) = none := by
      cases found : tag? (c :: (front ++ s)) with
      | none => rfl
      | some result =>
        obtain ⟨d, body, -, -, -, same⟩ := tag?_eq_some_iff.mp found
        exact absurd (List.cons.inj same).1.symm noBracket.1
    intro known fuel position plain
    cases fuel with
    | zero => exact Printable.nil opened known 0 position plain
    | succ fuel =>
      rw [List.cons_append, piecesFrom_of_plain (by rw [ordinary]; exact noTag)]
      exact further known fuel _ _

theorem Printable.of_tag {opened opened' : List String} {s tag after : List Char}
    (here : tag? s = some (tag, after))
    (followed : ∀ position, follow opened tag position = .ok opened')
    (prints : Printable opened' after) : Printable opened s := by
  intro known fuel position plain
  cases fuel with
  | zero => exact Printable.nil opened known 0 position plain
  | succ fuel =>
    obtain ⟨text, found⟩ := prints known fuel (position + (s.length - after.length)) []
    have behind : plainOf known opened (.tag tag position ::
        piecesFrom fuel (position + (s.length - after.length)) [] after) = .ok text := by
      rw [plainOf, followed]
      exact found
    rw [piecesFrom_of_tag here]
    exact exists_plainOf_plainPiece behind plain

theorem Printable.exists_plainText {markup : String} (prints : Printable [] markup.toList)
    (known : Emoji.Known) : ∃ text, plainText known markup = .ok text := by
  obtain ⟨text, found⟩ := prints known (markup.toList.length + 1) 0 []
  rw [plainText, pieces, found]
  exact ⟨_, rfl⟩

theorem follow_red (position : Nat) : follow [] "red".toList position = .ok ["red"] := by
  have same : normal (String.ofList "red".toList) = "red" := by decide +kernel
  show Except.ok [normal (String.ofList "red".toList)] = _
  rw [same]

theorem follow_endRed (position : Nat) : follow ["red"] "/red".toList position = .ok [] := by
  have same : normal (String.ofList "red".toList) = "red" := by decide +kernel
  have closing : follow ["red"] "/red".toList position =
      let name := normal (String.ofList "red".toList)
      if name.isEmpty then .ok []
      else if ["red"].contains name then .ok (["red"].erase name)
      else .error (.unmatched "[/red]" position) := rfl
  rw [closing, same]
  rfl

/-- A message behind a title in red. -/
theorem printable_titled {title message : List Char} (title₁ : '[' ∉ title) (title₂ : '\\' ∉ title)
    (untagged : Untagged message) :
    Printable [] ("[red]".toList ++ (title ++ ("[/red]".toList ++ message))) := by
  have red : tag? ("[red]".toList ++ (title ++ ("[/red]".toList ++ message))) =
      some ("red".toList, title ++ ("[/red]".toList ++ message)) :=
    tag?_eq_some_iff.mpr ⟨'r', ['e', 'd'], rfl, by simp [inTag], rfl, by simp⟩
  have endRed : tag? ("[/red]".toList ++ message) = some ("/red".toList, message) :=
    tag?_eq_some_iff.mpr ⟨'/', ['r', 'e', 'd'], rfl, by simp [inTag], rfl, by simp⟩
  have behind : Printable ["red"] ("[/red]".toList ++ message) :=
    .of_tag endRed follow_endRed (untagged.printable [])
  exact .of_tag red follow_red (behind.append_left title₁ title₂)

end Markup

/-! ### Printing -/

namespace Console

variable {markup : String} {text : List Char}

theorem shown_run {α : Type} (f : Emoji.Known → Except MarkupError α) (h : Host) :
    (shown f).run h = (f h.emoji, h) := rfl

theorem printWrapped_run (channel : Channel) (markup : String) (h : Host) :
    ∃ printed, (printWrapped channel markup).run h =
      ((Markup.plainText h.emoji markup).map fun _ => (), { h with printed }) := by
  rw [printWrapped, Action.run_bind, shown_run]
  cases Markup.plainText h.emoji markup with
  | error e => exact ⟨h.printed, rfl⟩
  | ok text => exact ⟨_, Action.run_printLines ..⟩

theorem printWhole_run (channel : Channel) (h : Host)
    (plain : Markup.plainText h.emoji markup = .ok text) :
    ∃ printed, (printWhole channel markup).run h = (.ok (), { h with printed }) := by
  rw [printWhole, Action.run_bind, shown_run, plain]
  exact ⟨_, Action.run_printLines ..⟩

end Console
end LinkMonitor
