import LinkMonitor.Files.Tree
import LinkMonitor.Proofs.Results
import Mathlib.Data.List.Basic

/-!
# Looking up in file trees

What is found after an insertion and after a removal, and which changes of a tree keep the way to a
file: as long as directories stay directories a path leads where it has led.
-/

namespace LinkMonitor.FileTree

theorem find?_of_isTop (t : FileTree) {l : Location} (h : isTop l = true) :
    t.find? l = some .directory := by
  rw [find?, if_pos h]

theorem isTop_of_find?_ne {t : FileTree} {l : Location} (h : t.find? l ≠ some .directory) :
    isTop l = false :=
  Bool.eq_false_iff.mpr fun top => h (find?_of_isTop t top)

private theorem lookup_map_put (entries : List (Location × Entry)) (l k : Location) (e : Entry)
    (h : entries.any (fun p => p.1 == l) = true) :
    (entries.map fun p => if p.1 == l then (l, e) else p).lookup k =
      if k = l then some e else entries.lookup k := by
  by_cases hk : k = l
  · subst hk
    rw [if_pos rfl]
    induction entries with
    | nil => simp at h
    | cons p rest ih =>
      obtain ⟨q, f⟩ := p
      by_cases hq : q = k
      · simp [hq]
      · have more : rest.any (fun p => p.1 == k) = true := by simpa [hq] using h
        have step : (k == q) = false := by simpa using Ne.symm hq
        simpa [hq, List.lookup_cons, step] using ih more
  · rw [if_neg hk]
    clear h
    induction entries with
    | nil => rfl
    | cons p rest ih =>
      obtain ⟨q, f⟩ := p
      have apart : (k == l) = false := by simpa using hk
      by_cases hq : q = l
      · subst hq
        simpa [List.lookup_cons, apart] using ih
      · by_cases hkq : k = q
        · subst hkq; simp [hk]
        · have step : (k == q) = false := by simpa using hkq
          simpa [List.lookup_cons, hq, step] using ih

private theorem lookup_append_put (entries : List (Location × Entry)) (l k : Location) (e : Entry)
    (h : entries.any (fun p => p.1 == l) = false) :
    (entries ++ [(l, e)]).lookup k = if k = l then some e else entries.lookup k := by
  rw [List.lookup_append]
  by_cases hk : k = l
  · subst hk
    have absent : entries.lookup k = none := by
      rw [List.lookup_eq_none_iff]
      intro p hp
      have other : p.1 ≠ k := by simpa using List.any_eq_false.mp h p hp
      simpa using other.symm
    simp [absent]
  · have apart : (k == l) = false := by simpa using hk
    simp [hk, apart, List.lookup_cons]

theorem find?_insert (t : FileTree) (l k : Location) (e : Entry) :
    (t.insert l e).find? k =
      if isTop k then some .directory else if k = l then some e else t.find? k := by
  by_cases top : isTop k = true
  · rw [if_pos top, find?_of_isTop _ top]
  · rw [if_neg top, find?, find?, if_neg top, if_neg top, insert]
    split
    · next h => exact lookup_map_put t.entries l k e h
    · next h => exact lookup_append_put t.entries l k e (Bool.eq_false_iff.mpr h)

theorem find?_erase (t : FileTree) (l k : Location) :
    (t.erase l).find? k =
      if isTop k then some .directory else if k = l then none else t.find? k := by
  by_cases top : isTop k = true
  · rw [if_pos top, find?_of_isTop _ top]
  · rw [if_neg top, find?, find?, if_neg top, if_neg top, erase]
    induction t.entries with
    | nil => by_cases hk : k = l <;> simp [hk]
    | cons p rest ih =>
      obtain ⟨q, f⟩ := p
      by_cases hq : q = l
      · subst hq
        by_cases hk : k = q
        · subst hk; simpa using ih
        · have step : (k == q) = false := by simpa using hk
          simpa [List.lookup_cons, step, hk] using ih
      · by_cases hk : k = q
        · subst hk; simp [hq]
        · have step : (k == q) = false := by simpa using hk
          simpa [List.lookup_cons, hq, step] using ih

theorem find?_insert_self (t : FileTree) {l : Location} (e : Entry) (h : isTop l = false) :
    (t.insert l e).find? l = some e := by
  rw [find?_insert, if_neg (by simp [h]), if_pos rfl]

theorem find?_insert_of_ne (t : FileTree) {l k : Location} (e : Entry) (h : k ≠ l) :
    (t.insert l e).find? k = t.find? k := by
  rw [find?_insert, if_neg h]
  split
  · next top => rw [find?_of_isTop _ top]
  · rfl

theorem find?_erase_self (t : FileTree) {l : Location} (h : isTop l = false) :
    (t.erase l).find? l = none := by
  rw [find?_erase, if_neg (by simp [h]), if_pos rfl]

theorem find?_erase_of_ne (t : FileTree) {l k : Location} (h : k ≠ l) :
    (t.erase l).find? k = t.find? k := by
  rw [find?_erase, if_neg h]
  split
  · next top => rw [find?_of_isTop _ top]
  · rfl

/-! ### Ways that stay open -/

/-- Every directory of the first tree is one of the second. -/
def KeepsDirectories (t u : FileTree) : Prop :=
  ∀ l, t.find? l = some .directory → u.find? l = some .directory

/-- Everything in the first tree is in the second. -/
def Extends (t u : FileTree) : Prop := ∀ l e, t.find? l = some e → u.find? l = some e

variable {t u v : FileTree}

theorem Extends.keepsDirectories (h : Extends t u) : KeepsDirectories t u := fun l => h l _

theorem Extends.refl (t : FileTree) : Extends t t := fun _ _ h => h

theorem Extends.trans (h : Extends t u) (k : Extends u v) : Extends t v :=
  fun l e found => k l e (h l e found)

theorem extends_insert {l : Location} (e : Entry) (h : t.find? l = none) :
    Extends t (t.insert l e) := by
  intro k f found
  have apart : k ≠ l := by intro same; simp [same, h] at found
  rw [find?_insert_of_ne t e apart, found]

theorem walk_of_keepsDirectories (hd : KeepsDirectories t u) {names : List String}
    {l r : Location} (h : t.walk l names = .ok r) : u.walk l names = .ok r := by
  induction names generalizing l with
  | nil => exact h
  | cons name names ih =>
    rw [walk] at h ⊢
    split at h
    · cases h
    · cases h
    · next found =>
      rw [hd l found]
      dsimp only
      split at h
      · next up => rw [if_pos up]; exact ih h
      · next down =>
        rw [if_neg down]
        split at h
        · cases h
        · next short => rw [if_neg short]; exact ih h

theorem size_of_resolve {p : Path} {l : Location} (h : t.resolve p = .ok l) :
    p.text.utf8ByteSize ≤ maxPathSize := by
  rw [resolve] at h
  split at h
  · cases h
  · next short => exact Nat.le_of_not_lt short

theorem resolve_of_keepsDirectories (hd : KeepsDirectories t u) {p : Path} {l : Location}
    (h : t.resolve p = .ok l) : u.resolve p = .ok l := by
  rw [resolve] at h ⊢
  split at h
  · cases h
  · next short =>
    rw [if_neg short]
    exact walk_of_keepsDirectories hd h

/-- Where a path leads to if it leads anywhere, whatever the tree holds. -/
def place (p : Path) : Location :=
  p.names.foldl (fun l name => if name = ".." then parentOf l else l ++ [name])
    (if p.root.isEmpty then [] else ["/"])

theorem foldl_of_walk {names : List String} {l r : Location} (h : t.walk l names = .ok r) :
    r = names.foldl (fun l name => if name = ".." then parentOf l else l ++ [name]) l := by
  induction names generalizing l with
  | nil => exact (Except.ok.inj h).symm
  | cons name names ih =>
    rw [walk] at h
    rw [List.foldl_cons]
    split at h
    · cases h
    · cases h
    · split at h
      · next up => rw [if_pos up]; exact ih h
      · next down =>
        rw [if_neg down]
        split at h
        · cases h
        · exact ih h

theorem eq_place_of_resolve {p : Path} {l : Location} (h : t.resolve p = .ok l) : l = place p := by
  rw [resolve] at h
  split at h
  · cases h
  · exact foldl_of_walk h

/-! ### Contents -/

theorem contentAt_eq_ok {p : Path} {bytes : List UInt8} :
    t.contentAt p = .ok bytes ↔ ∃ l, t.resolve p = .ok l ∧ t.find? l = some (.file bytes) := by
  rw [contentAt, entryAt]
  cases hl : t.resolve p with
  | error fault => simp [blame, bind, Except.bind]
  | ok l =>
    cases he : t.find? l with
    | none => simp [blame, bind, Except.bind, he, throw, throwThe, MonadExceptOf.throw]
    | some e =>
      cases e <;>
        simp [blame, bind, Except.bind, he, throw, throwThe, MonadExceptOf.throw, pure,
          Except.pure]

theorem contentAt_of_extends (h : Extends t u) {p : Path} {bytes : List UInt8}
    (hp : t.contentAt p = .ok bytes) : u.contentAt p = .ok bytes := by
  obtain ⟨l, reached, found⟩ := contentAt_eq_ok.mp hp
  exact contentAt_eq_ok.mpr
    ⟨l, resolve_of_keepsDirectories h.keepsDirectories reached, h l _ found⟩

theorem walk_append (t : FileTree) (l : Location) (first second : List String) :
    t.walk l (first ++ second) = t.walk l first >>= fun k => t.walk k second := by
  induction first generalizing l with
  | nil => rfl
  | cons name names ih =>
    rw [List.cons_append, walk, walk]
    split
    · rfl
    · rfl
    · split
      · exact ih _
      · split
        · rfl
        · exact ih _

/-- A path leads to its last name in the directory that the path without it leads to. -/
theorem walk_of_resolve {p : Path} {name : String} {l : Location}
    (last : p.names.getLast? = some name) (down : name ≠ "..") (h : t.resolve p = .ok l) :
    ∃ d, t.walk (if p.root.isEmpty then [] else ["/"]) p.parent.names = .ok d ∧
      t.find? d = some .directory ∧ l = d ++ [name] := by
  have split : p.names = p.parent.names ++ [name] := (List.dropLast_append_getLast? name last).symm
  rw [resolve] at h
  split at h
  · cases h
  · rw [split, walk_append] at h
    obtain ⟨d, outer, inner⟩ := ok_of_bind h
    refine ⟨d, outer, ?_⟩
    rw [walk] at inner
    split at inner
    · cases inner
    · cases inner
    · next directory =>
      rw [if_neg down] at inner
      split at inner
      · cases inner
      · cases inner; exact ⟨directory, rfl⟩

theorem resolve_eq_append {p : Path} {name : String} {d l : Location}
    (last : p.names.getLast? = some name) (down : name ≠ "..") (hd : t.resolve p.parent = .ok d)
    (hl : t.resolve p = .ok l) : l = d ++ [name] := by
  obtain ⟨k, outer, -, rfl⟩ := walk_of_resolve last down hl
  rw [resolve] at hd
  split at hd
  · cases hd
  · rw [show p.parent.root = p.root from rfl, outer] at hd
    rw [Except.ok.inj hd]

/-! ### Changes at one location -/

/-- The trees hold the same everywhere but at one location. -/
def SameBut (l : Location) (t u : FileTree) : Prop := ∀ k, k ≠ l → u.find? k = t.find? k

theorem sameBut_insert (t : FileTree) (l : Location) (e : Entry) : SameBut l t (t.insert l e) :=
  fun _ apart => find?_insert_of_ne t e apart

theorem sameBut_appendTo (t : FileTree) (l : Location) (bytes : List UInt8) :
    SameBut l t (t.appendTo l bytes) := by
  unfold appendTo
  split <;> exact sameBut_insert t l _

theorem SameBut.trans {l : Location} (h : SameBut l t u) (k : SameBut l u v) : SameBut l t v :=
  fun j apart => (k j apart).trans (h j apart)

theorem SameBut.symm {l : Location} (h : SameBut l t u) : SameBut l u t :=
  fun j apart => (h j apart).symm

theorem SameBut.keepsDirectories {l : Location} (h : SameBut l t u)
    (other : t.find? l ≠ some .directory) : KeepsDirectories t u := by
  intro k directory
  have apart : k ≠ l := by rintro rfl; exact other directory
  rw [h k apart, directory]

theorem find?_appendTo_self {l : Location} {before : List UInt8} (bytes : List UInt8)
    (h : t.find? l = some (.file before)) :
    (t.appendTo l bytes).find? l = some (.file (before ++ bytes)) := by
  have other : t.find? l ≠ some .directory := by simp [h]
  rw [appendTo, h]
  exact find?_insert_self t _ (isTop_of_find?_ne other)

/-! ### Files put and removed -/

theorem putFile_eq_ok {p : Path} {bytes : List UInt8} (put : t.putFile p bytes = .ok u) :
    ∃ l, t.resolve p = .ok l ∧ t.find? l ≠ some .directory ∧ u = t.insert l (.file bytes) := by
  rw [putFile] at put
  cases reached : t.resolve p with
  | error fault => simp [reached, blame, bind, Except.bind] at put
  | ok l =>
    simp only [reached, bind, Except.bind] at put
    split at put
    · cases put
    · next free =>
      split at put
      · cases put
        exact ⟨l, rfl, free, rfl⟩
      · cases put

/-- The way to a file does not pass through it. -/
theorem contentAt_of_putFile {p : Path} {bytes : List UInt8} (put : t.putFile p bytes = .ok u) :
    u.contentAt p = .ok bytes := by
  obtain ⟨l, reached, free, rfl⟩ := putFile_eq_ok put
  refine contentAt_eq_ok.mpr ⟨l, ?_, find?_insert_self t _ (isTop_of_find?_ne free)⟩
  exact resolve_of_keepsDirectories ((sameBut_insert t l _).keepsDirectories free) reached

theorem removeFile_of_contentAt {p : Path} {bytes : List UInt8} (content : t.contentAt p = .ok bytes) :
    ∃ u, t.removeFile p = .ok u := by
  obtain ⟨l, reached, found⟩ := contentAt_eq_ok.mp content
  refine ⟨t.erase l, ?_⟩
  rw [removeFile, entryAt, reached]
  simp [found, blame, bind, Except.bind, pure, Except.pure]

/-- After a file has been removed there is none at its path. -/
theorem contentAt_of_removeFile {p : Path} (removed : t.removeFile p = .ok u) (bytes : List UInt8) :
    u.contentAt p ≠ .ok bytes := by
  intro content
  obtain ⟨k, there, found⟩ := contentAt_eq_ok.mp content
  rw [removeFile, entryAt] at removed
  cases reached : t.resolve p with
  | error fault => simp [reached, blame, bind, Except.bind] at removed
  | ok l =>
    have same : k = l := (eq_place_of_resolve there).trans (eq_place_of_resolve reached).symm
    cases entry : t.find? l with
    | none =>
      simp [reached, entry, blame, bind, Except.bind, throw, throwThe, MonadExceptOf.throw] at removed
    | some e =>
      cases e with
      | directory =>
        simp [reached, entry, blame, bind, Except.bind, throw, throwThe, MonadExceptOf.throw, pure,
          Except.pure] at removed
      | file before =>
        simp only [reached, entry, blame, bind, Except.bind, pure, Except.pure,
          Except.ok.injEq] at removed
        have other : t.find? l ≠ some .directory := by simp [entry]
        rw [← removed, same, find?_erase_self t (isTop_of_find?_ne other)] at found
        cases found

/-! ### New directories -/

/-- The second tree is the first one, perhaps with more directories on the way to a path. -/
structure AddsDirectories (p : Path) (t u : FileTree) : Prop where
  extended : Extends t u
  added : ∀ l e, t.find? l = none → u.find? l = some e →
    e = .directory ∧ ∃ names, names <+: p.names ∧ u.resolve ⟨p.root, names⟩ = .ok l

theorem AddsDirectories.refl (p : Path) (t : FileTree) : AddsDirectories p t t :=
  ⟨Extends.refl t, fun l e missing found => by rw [missing] at found; cases found⟩

/-- First directories on the way to an outer path, then more on the way to the inner one. -/
theorem AddsDirectories.trans {root : String} {outer inner : List String}
    (h : AddsDirectories ⟨root, outer⟩ t u) (k : AddsDirectories ⟨root, inner⟩ u v)
    (shorter : outer <+: inner) : AddsDirectories ⟨root, inner⟩ t v := by
  refine ⟨h.extended.trans k.extended, fun l e missing found => ?_⟩
  cases before : u.find? l with
  | none => exact k.added l e before found
  | some f =>
    obtain ⟨directory, names, part, reached⟩ := h.added l f missing before
    have same : f = e := Option.some.inj ((k.extended l f before).symm.trans found)
    exact ⟨same ▸ directory, names, part.trans shorter,
      resolve_of_keepsDirectories k.extended.keepsDirectories reached⟩

theorem AddsDirectories.congr {p : Path} (h : AddsDirectories p t u)
    (same : ∀ l, v.find? l = u.find? l) : AddsDirectories p t v := by
  refine ⟨fun l e found => (same l).trans (h.extended l e found), fun l e missing found => ?_⟩
  obtain ⟨directory, names, part, reached⟩ := h.added l e missing ((same l).symm.trans found)
  exact ⟨directory, names, part,
    resolve_of_keepsDirectories (fun k there => (same k).trans there) reached⟩

theorem makeDirectory_adds {p : Path} (h : t.makeDirectory p = .ok u) : AddsDirectories p t u := by
  unfold makeDirectory at h
  cases reached : t.resolve p with
  | error fault => simp [reached, bind, Except.bind] at h
  | ok l =>
    simp only [reached, bind, Except.bind] at h
    split at h
    · cases h
    · next free =>
      cases h
      have extended := extends_insert .directory free
      refine ⟨extended, fun k e missing found => ?_⟩
      by_cases here : k = l
      · subst here
        have other : t.find? k ≠ some .directory := by simp [free]
        rw [find?_insert_self t _ (isTop_of_find?_ne other)] at found
        exact ⟨(Option.some.inj found).symm, p.names, List.prefix_refl _,
          resolve_of_keepsDirectories extended.keepsDirectories reached⟩
      · rw [find?_insert_of_ne t _ here, missing] at found
        cases found

theorem ensureDirectory_adds {p : Path} (h : t.ensureDirectory p = .ok u) :
    AddsDirectories p t u := by
  unfold ensureDirectory at h
  split at h
  · next made => cases h; exact makeDirectory_adds made
  · split at h <;> cases h
    exact AddsDirectories.refl p t

theorem ensureDirectories_adds (t : FileTree) (root : String) (names : List String) :
    AddsDirectories ⟨root, names.reverse⟩ t (t.ensureDirectories root names).1 := by
  induction names generalizing t with
  | nil =>
    unfold ensureDirectories
    dsimp only
    split
    · next same => cases same
    · split
      · next h => exact ensureDirectory_adds h
      · exact AddsDirectories.refl _ t
  | cons name outer ih =>
    unfold ensureDirectories
    dsimp only
    split
    · next same =>
      cases same
      have first := ih t
      have shorter : outer.reverse <+: (name :: outer).reverse :=
        ⟨[name], by rw [List.reverse_cons]⟩
      generalize t.ensureDirectories root outer = result at first ⊢
      obtain ⟨u, r⟩ := result
      cases r with
      | error e => exact first.trans (AddsDirectories.refl _ u) shorter
      | ok _ =>
        dsimp only
        split
        · next h => exact first.trans (ensureDirectory_adds h) shorter
        · exact first.trans (AddsDirectories.refl _ u) shorter
    · split
      · next h => exact ensureDirectory_adds h
      · exact AddsDirectories.refl _ t

theorem makeDirectories_adds (t : FileTree) (p : Path) :
    AddsDirectories p t (t.makeDirectories p).1 := by
  have made := ensureDirectories_adds t p.root p.names.reverse
  rwa [List.reverse_reverse] at made

theorem makeDirectories_of_directory {p : Path} {l : Location} (reached : t.resolve p = .ok l)
    (found : t.find? l = some .directory) : t.makeDirectories p = (t, .ok ()) := by
  have made : t.makeDirectory p = .error .alreadyThere := by
    simp [makeDirectory, reached, found, bind, Except.bind, throw, throwThe, MonadExceptOf.throw]
  have there : t.isDirectory p = true := by
    simp [isDirectory, entryAt, reached, found, bind, Except.bind, pure, Except.pure]
  have ensured : t.ensureDirectory p = .ok t := by simp [ensureDirectory, made, there]
  unfold makeDirectories ensureDirectories
  simp only [List.reverse_reverse, made, ensured]

end LinkMonitor.FileTree
