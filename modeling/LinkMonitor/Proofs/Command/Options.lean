import LinkMonitor.Command.Line
import LinkMonitor.Proofs.Results

/-!
# Values of options

A value that has been read from a command line is one that its option has no complaint about.
-/

namespace LinkMonitor
namespace CommandGrammar

variable {g : CommandGrammar}

/-! ### Marks -/

/-- A mark that names an option names one of the grammar. -/
def Knows (g : CommandGrammar) : Mark → Prop
  | .option o _ _ => o ∈ g.options
  | _ => True

theorem mem_options_of_mem_allNames {name : List Char} {o : CommandOption}
    (member : (name, o) ∈ g.allNames) : o ∈ g.options := by
  obtain ⟨p, among, named⟩ := List.mem_flatMap.mp member
  obtain ⟨n, -, same⟩ := List.mem_map.mp named
  cases same
  exact among

theorem mem_options_of_lookup {name : List Char} {o : CommandOption}
    (found : g.allNames.lookup name = some o) : o ∈ g.options := by
  obtain ⟨before, after, split, -⟩ := List.lookup_eq_some_iff.mp found
  have among : (name, o) ∈ g.allNames := by simp [split]
  exact mem_options_of_mem_allNames among

theorem mem_options_of_candidates {s : List Char} {c : CommandOption × List Char × Option (List Char)}
    (member : c ∈ g.candidates s) : c.1 ∈ g.options := by
  have each (f : List Char × CommandOption → Option (CommandOption × List Char × Option (List Char)))
      (keeps : ∀ p c, f p = some c → c.1 = p.2) (member : c ∈ g.allNames.filterMap f) :
      c.1 ∈ g.options := by
    obtain ⟨⟨name, o⟩, among, same⟩ := List.mem_filterMap.mp member
    rw [keeps _ _ same]
    exact mem_options_of_mem_allNames among
  unfold candidates at member
  split at member
  · generalize splitValue s = parts at member
    refine each _ (fun p c same => ?_) member
    dsimp only at same
    split at same
    · cases same; rfl
    · cases same
  · refine each _ (fun p c same => ?_) member
    dsimp only at same
    split at same
    · cases same; rfl
    · split at same
      · cases same; rfl
      · cases same

theorem knows_of_markDashed {s : List Char} {m : Mark} (marked : g.markDashed s = .ok m) :
    g.Knows m := by
  unfold markDashed at marked
  dsimp only at marked
  split at marked
  · next o _ found =>
    cases marked
    exact mem_options_of_lookup found
  · next o _ found =>
    cases marked
    exact mem_options_of_lookup found
  · split at marked
    · cases marked
      trivial
    · split at marked
      · next o name value only =>
        cases marked
        have among : (o, name, value) ∈ g.candidates s := by
          rw [only]
          simp
        exact mem_options_of_candidates among
      · cases marked
        split <;> trivial
      · cases marked

theorem knows_of_mark {args : List String} {words : List (String × Mark)}
    (marked : g.mark args = .ok words) : ∀ p ∈ words, g.Knows p.2 := by
  induction args generalizing words with
  | nil =>
    cases marked
    simp
  | cons s args ih =>
    rw [mark] at marked
    split at marked
    · cases marked
      intro p member
      rcases List.mem_cons.mp member with rfl | behind
      · trivial
      · obtain ⟨word, -, rfl⟩ := List.mem_map.mp behind
        trivial
    · have behind {m : Mark} (known : g.Knows m) (marked : (do
          let rest ← g.mark args
          return (s, m) :: rest) = .ok words) : ∀ p ∈ words, g.Knows p.2 := by
        obtain ⟨rest, others, marked⟩ := ok_of_bind marked
        cases marked
        exact List.forall_mem_cons.mpr ⟨known, ih others⟩
      dsimp only at marked
      split at marked
      · obtain ⟨m, first, marked⟩ := ok_of_bind marked
        exact behind (knows_of_markDashed first) marked
      · exact behind (m := .word) trivial marked

/-! ### Values -/

/-- The values that have been read are fit for their options. -/
def Accepts (g : CommandGrammar) (w : CommandWords) : Prop :=
  ∀ name value, (name, some value) ∈ w.options → ∃ o ∈ g.options, o.name = name ∧
    ∃ complaint?, o.kind = .value complaint? ∧ complaint? value = none

theorem Accepts.keep {w : CommandWords} {o : CommandOption} {value? : Option String}
    (accepts : g.Accepts w) (known : o ∈ g.options)
    (fit : ∀ value, value? = some value → ∃ complaint?, o.kind = .value complaint? ∧
      complaint? value = none) :
    g.Accepts { w with options := (o.name, value?) :: w.options } := by
  intro name value member
  rcases List.mem_cons.mp member with same | before
  · obtain ⟨rfl, rfl⟩ := Prod.mk.inj same
    exact ⟨o, known, rfl, fit value rfl⟩
  · exact accepts name value before

theorem accepts_of_takeOption {o : CommandOption} {name : List Char} {value? : Option (List Char)}
    {next? : Option String} {w w' : CommandWords} {taken : Bool} (accepts : g.Accepts w)
    (known : o ∈ g.options) (took : g.takeOption o name value? next? w = .ok (taken, w')) :
    g.Accepts w' := by
  unfold takeOption at took
  dsimp only at took
  split at took
  · next complaint? value kind =>
    split at took
    · cases took
      exact accepts.keep known nofun
    · split at took
      · cases took
      · next fit =>
        cases took
        refine accepts.keep known fun v same => ⟨complaint?, kind, ?_⟩
        rw [← Option.some.inj same]
        exact fit
  · next complaint? kind =>
    split at took
    · cases took
    · next value =>
      split at took
      · cases took
      · next fit =>
        cases took
        refine accepts.keep known fun v same => ⟨complaint?, kind, ?_⟩
        rw [← Option.some.inj same]
        exact fit
  · obtain ⟨_, -, took⟩ := ok_of_bind took
    cases took
    exact accepts
  · cases took
  · cases took
    exact accepts.keep known nofun

/-- No step of the reading keeps a value that its option complains about. -/
theorem accepts_of_consume {words : List (String × Mark)} {w w' : CommandWords}
    (known : ∀ p ∈ words, g.Knows p.2) (accepts : g.Accepts w)
    (read : g.consume words w = .ok w') : g.Accepts w' := by
  fun_induction consume g words w with
  | case1 w =>
    cases read
    exact accepts
  | case2 s rest w skip ih =>
    exact ih (fun p later => known p (List.mem_cons_of_mem _ later)) accepts read
  | case3 s rest w o name value? e took =>
    dsimp only at read
    rw [took] at read
    cases read
  | case4 s w o name value? w₁ next rest took ih =>
    have kept := accepts_of_takeOption accepts (known _ (List.mem_cons_self ..)) took
    dsimp only at read
    rw [took] at read
    exact ih (fun p later => known p (by simp [later])) kept read
  | case5 s w o name value? taken w₁ rest other took ih =>
    have kept := accepts_of_takeOption accepts (known _ (List.mem_cons_self ..)) took
    dsimp only at read
    rw [took] at read
    refine ih (fun p later => known p (by simp [later])) kept ?_
    cases rest with
    | nil => cases taken <;> exact read
    | cons next rest =>
      cases taken with
      | false => exact read
      | true => exact absurd rfl (other next rest rfl)
  | case6 s rest w isCommand first =>
    dsimp only at read
    rw [if_pos first] at read
    cases read
    exact accepts
  | case7 s rest w isCommand skip later ih =>
    dsimp only at read
    rw [if_neg later] at read
    exact ih (fun p later => known p (by simp [later])) accepts read
  | case8 s rest w isCommand first =>
    dsimp only at read
    rw [if_pos first] at read
    cases read
    exact accepts
  | case9 s rest w isCommand later =>
    dsimp only at read
    rw [if_neg later] at read
    cases read
    exact accepts

theorem accepts_of_read {args : List String} {w : CommandWords} (read : g.read args = .ok w) :
    g.Accepts w := by
  rw [CommandGrammar.read] at read
  obtain ⟨words, marked, read⟩ := ok_of_bind read
  obtain ⟨w', consumed, read⟩ := ok_of_bind read
  have accepts : g.Accepts w' :=
    accepts_of_consume (knows_of_mark marked) (fun _ _ none => by cases none) consumed
  dsimp only at read
  split at read
  · obtain ⟨_, -, read⟩ := ok_of_bind read
    cases read
    exact accepts
  · cases read
    exact accepts

theorem Accepts.of_value? {w : CommandWords} {option value : String} (accepts : g.Accepts w)
    (found : w.value? option = some value) : ∃ o ∈ g.options, o.name = option ∧
      ∃ complaint?, o.kind = .value complaint? ∧ complaint? value = none := by
  unfold CommandWords.value? at found
  cases kept : w.options.lookup option with
  | none =>
    rw [kept] at found
    cases found
  | some value? =>
    rw [kept] at found
    obtain rfl : value? = some value := found
    obtain ⟨before, after, split, -⟩ := List.lookup_eq_some_iff.mp kept
    exact accepts option value (by simp [split])

end CommandGrammar

namespace ReaderCommand

open CommandLine

theorem accepts_of_inner {g : CommandGrammar} {outer w : CommandWords} {sub : CommandGrammar}
    {words : List String} (read : inner g outer sub words = .ok w) : sub.Accepts w := by
  obtain ⟨w', consumed, read⟩ := ok_of_bind read
  obtain ⟨_, -, read⟩ := ok_of_bind read
  cases read
  exact CommandGrammar.accepts_of_read consumed

theorem cutoffComplaint?_of_inner {outer w : CommandWords} {words : List String} {value : String}
    (read : inner grammar outer analyzeGrammar words = .ok w)
    (found : w.value? "--cutoff" = some value) : cutoffComplaint? value = none := by
  obtain ⟨o, known, named, complaint?, kind, fit⟩ := (accepts_of_inner read).of_value? found
  have own : o = .value "--cutoff" cutoffComplaint? := by
    have among : o = .help ∨ o = .value "--stack" stackComplaint? ∨
        o = .value "--cutoff" cutoffComplaint? ∨ o = .flag "--by-severity" := by
      simpa [analyzeGrammar] using known
    rcases among with rfl | rfl | rfl | rfl
    · exact absurd named (by decide)
    · exact absurd named (by decide)
    · rfl
    · exact absurd named (by decide)
  rw [own] at kind
  cases kind
  exact fit

theorem cutoff_nonneg_of_complaint {value : String} {n : Int} (fit : cutoffComplaint? value = none)
    (whole : WholeText.parse? value = some n) : 0 ≤ n := by
  unfold cutoffComplaint? at fit
  rw [whole] at fit
  dsimp only at fit
  split at fit
  · cases fit
  · next nonneg => exact Int.not_lt.mp nonneg

/-- A cutoff that has been read is not negative. -/
theorem cutoff_nonneg_of_parse {args : List String} {store : Option String}
    {options : AnalysisOptions} {n : Int} (parsed : parse args = .ok ⟨store, .analyze options⟩)
    (given : options.cutoff = some n) : 0 ≤ n := by
  unfold parse at parsed
  obtain ⟨outer, -, parsed⟩ := ok_of_bind parsed
  split at parsed
  · obtain ⟨_, -, parsed⟩ := ok_of_bind parsed
    cases parsed
    cases given
  · next words _ =>
    obtain ⟨w, read, parsed⟩ := ok_of_bind parsed
    cases parsed
    obtain ⟨value, found, whole⟩ := Option.bind_eq_some_iff.mp given
    exact cutoff_nonneg_of_complaint (cutoffComplaint?_of_inner read found) whole
  · obtain ⟨_, -, parsed⟩ := ok_of_bind parsed
    cases parsed
  · obtain ⟨_, -, parsed⟩ := ok_of_bind parsed
    split at parsed <;> cases parsed

end ReaderCommand
end LinkMonitor
