import EntropyTables.Command.Arguments
import EntropyTables.Proofs.Failing
/-!
# Asking for a dry run

Reading the arguments of one side goes step by step (`ReadStep`), and what a step does to what is
given is the same before any other arguments. No step but the option itself looks at whether a dry
run is asked for (`Neutral`), so the option can be added to arguments that lack it and changes
nothing else.

Main statement: `ofArguments_dryRun`.
-/
namespace EntropyTables.Command

def Given.dry (given : Given) : Given :=
  { given with generate := { given.generate with dryRun := true } }

/-- Where the change asks for no dry run, there was none before, and it does the same if there is
one. -/
def Neutral (change : Given → Except Refusal Given) : Prop :=
  ∀ given given', change given = .ok given' → given'.generate.dryRun = false →
    given.generate.dryRun = false ∧ change given.dry = .ok given'.dry

namespace Neutral

theorem keep : Neutral .ok := by
  intro given given' hrun hdry
  obtain rfl := Except.ok.inj hrun
  exact ⟨hdry, rfl⟩

theorem refuse (refusal : Refusal) : Neutral fun _ => .error refusal := by
  intro given given' hrun
  cases hrun

theorem bind {change next : Given → Except Refusal Given} (h : Neutral change)
    (h' : Neutral next) : Neutral fun given => change given >>= next := by
  intro given given' hrun hdry
  obtain ⟨middle, hmiddle, hrun⟩ := bind_eq_ok_iff.1 hrun
  obtain ⟨hdry, hnext⟩ := h' middle given' hrun hdry
  obtain ⟨hdry, hchange⟩ := h given middle hmiddle hdry
  exact ⟨hdry, bind_eq_ok_iff.2 ⟨_, hchange, hnext⟩⟩

theorem foldlM {α : Type} {step : Given → α → Except Refusal Given}
    (h : ∀ a, Neutral fun given => step given a) : ∀ as : List α,
    Neutral fun given => as.foldlM step given
  | [] => keep
  | a :: as => by
    have hstep := (h a).bind (foldlM h as)
    simpa only [List.foldlM_cons] using hstep

theorem setting (setting : Setting) (value : String) :
    Neutral fun given => setting.apply given value := by
  intro given given' hrun hdry
  cases setting <;>
  · obtain ⟨v, hv, hgiven⟩ := bind_eq_ok_iff.1 hrun
    cases hgiven
    exact ⟨hdry, bind_eq_ok_iff.2 ⟨v, hv, rfl⟩⟩

theorem switch (switch : Switch) : Neutral fun given => switch.apply given := by
  intro given given' hrun hdry
  cases switch with
  | verbose =>
    obtain rfl := Except.ok.inj hrun
    exact ⟨hdry, rfl⟩
  | quiet =>
    obtain rfl := Except.ok.inj hrun
    exact ⟨hdry, rfl⟩
  | version => cases hrun
  | dryRun =>
    -- The option itself asks for a dry run.
    simp only [Switch.apply] at hrun
    split_ifs at hrun
    obtain rfl := Except.ok.inj hrun
    cases hdry

theorem plain (scope : Scope) (arg : String) : Neutral fun given => applyPlain scope given arg := by
  intro given given' hrun hdry
  simp only [applyPlain] at hrun ⊢
  by_cases hs : scope = .generate
  · rw [if_pos hs] at hrun ⊢
    obtain ⟨v, hv, hgiven⟩ := bind_eq_ok_iff.1 hrun
    cases hgiven
    exact ⟨hdry, bind_eq_ok_iff.2 ⟨v, hv, rfl⟩⟩
  · rw [if_neg hs] at hrun
    cases hrun

end Neutral

/-! ## Step by step -/

/-- How the arguments of one side are read. -/
inductive Steps (scope : Scope) : List String → Prop
  /-- All arguments are read, or refused. -/
  | last {args : List String} {change : Given → Except Refusal Given} (hneutral : Neutral change)
      (hread : ∀ given, readSide scope given args = (change given).map (·, none)) :
      Steps scope args
  /-- The command follows. -/
  | command {name : String} {next : Scope}
      (hname : next = .generate ∧ name = "generate" ∨ next = .tables)
      (hread : ∀ given tail, readSide scope given (name :: tail) = .ok (given, some (next, tail)))
      (rest : List String) : Steps scope (name :: rest)
  /-- The first arguments change what is given, whatever comes after them. -/
  | change (first : List String) {change : Given → Except Refusal Given} (hneutral : Neutral change)
      (hread : ∀ given tail, readSide scope given (first ++ tail) =
        change given >>= fun given => readSide scope given tail) {rest : List String}
      (hrest : Steps scope rest) : Steps scope (first ++ rest)

/-- **All arguments are read step by step.** -/
theorem steps (scope : Scope) : ∀ args : List String, Steps scope args
  | [] => .last .keep fun _ => rfl
  | arg :: rest => by
    have hfirst : ∀ {change : Given → Except Refusal Given}, Neutral change →
        (∀ given tail, readSide scope given (arg :: tail) =
          change given >>= fun given => readSide scope given tail) → Steps scope (arg :: rest) :=
      fun hneutral hread => .change [arg] hneutral hread (steps scope rest)
    have hrefuse : ∀ {rest}, (∀ given, readSide scope given (arg :: rest) = .error .usage) →
        Steps scope (arg :: rest) := fun hread => .last (.refuse .usage) hread
    have hread : ∀ given tail, readSide scope given (arg :: tail) = _ :=
      fun given tail => readSide.eq_2 scope given arg tail
    split at hread
    · exact .last (.foldlM (.plain scope) rest) fun given => hread given rest
    · split at hread
      simp only at hread
      split at hread
      · exact hfirst (.setting _ _) hread
      · -- The value of the option is the next argument.
        match rest with
        | [] => exact hrefuse fun given => hread given []
        | value :: rest =>
          by_cases hlooks : looksLikeOption value = true
          · exact hrefuse fun given => (hread given (value :: rest)).trans (if_pos hlooks)
          · exact .change [arg, value] (.setting _ value)
              (fun given tail => (hread given (value :: tail)).trans (if_neg hlooks))
              (steps scope rest)
      · exact hfirst (.switch _) hread
      · exact hrefuse fun given => hread given rest
    · refine hfirst (.foldlM (fun c => ?_) _) hread
      cases Switch.ofLetter? scope c with
      | some switch => exact .switch switch
      | none => exact .refuse .usage
    · by_cases hs : scope = .program
      · simp only [hs, if_true] at hread
        subst hs
        split at hread
        · exact .command (.inl ⟨rfl, ‹_›⟩) hread rest
        · split at hread
          · exact .command (.inr rfl) hread rest
          · exact hrefuse fun given => hread given rest
      · simp only [hs, if_false] at hread
        exact hfirst (.plain scope arg) hread
termination_by args => args.length

theorem readSide_command {given given' : Given} {next : Scope} {args rest : List String}
    (h : readSide .program given args = .ok (given', some (next, rest))) :
    ∃ before name, args = before ++ name :: rest ∧
      (next = .generate ∧ name = "generate" ∨ next = .tables) ∧
      ∀ tail,
        readSide .program given (before ++ name :: tail) = .ok (given', some (next, tail)) := by
  induction steps .program args generalizing given with
  | last hneutral hread =>
    rw [hread] at h
    obtain ⟨_, _, h⟩ := map_eq_ok_iff.1 h
    cases h
  | @command name next' hname hread args =>
    rw [hread] at h
    cases h
    exact ⟨[], name, rfl, hname, fun tail => hread _ tail⟩
  | change first hneutral hread _ ih =>
    rw [hread] at h
    obtain ⟨middle, hmiddle, h⟩ := bind_eq_ok_iff.1 h
    obtain ⟨before, name, rfl, hname, hbefore⟩ := ih h
    refine ⟨first ++ before, name, by simp, hname, fun tail => ?_⟩
    rw [List.append_assoc, hread, hmiddle]
    exact hbefore tail

/-- **Arguments that do not ask for a dry run** read the same if it is asked for before them. -/
theorem readSide_neutral {scope : Scope} {given given' : Given} {args : List String}
    {command : Option (Scope × List String)}
    (h : readSide scope given args = .ok (given', command))
    (hdry : given'.generate.dryRun = false) :
    given.generate.dryRun = false ∧ readSide scope given.dry args = .ok (given'.dry, command) := by
  induction steps scope args generalizing given with
  | last hneutral hread =>
    rw [hread] at h
    obtain ⟨last, hlast, h⟩ := map_eq_ok_iff.1 h
    cases h
    obtain ⟨hdry, hchange⟩ := hneutral given given' hlast hdry
    exact ⟨hdry, by rw [hread, hchange]; rfl⟩
  | command hname hread args =>
    rw [hread] at h
    cases h
    exact ⟨hdry, hread _ args⟩
  | change first hneutral hread _ ih =>
    rw [hread] at h
    obtain ⟨middle, hmiddle, h⟩ := bind_eq_ok_iff.1 h
    obtain ⟨hdry, hargs⟩ := ih h
    obtain ⟨hdry, hchange⟩ := hneutral given middle hmiddle hdry
    refine ⟨hdry, ?_⟩
    rw [hread, hchange]
    exact hargs

/-! ## All arguments -/

/-- The option alone asks for a dry run. -/
theorem readSide_option (rest : List String) :
    readSide .generate .nothing ("--dry-run" :: rest) =
      readSide .generate Given.nothing.dry rest := by
  rw [readSide.eq_2]
  rfl

theorem ofArguments_generate_iff {args : List String} {options : Options} {table : Table}
    {input output : Option Path} {mode : Option CavlcMode} {dryRun : Bool} :
    Invocation.ofArguments args = .ok ⟨options, .generate table input output mode dryRun⟩ ↔
      ∃ outer scope rest inner command,
        readSide .program .nothing args = .ok (outer, some (scope, rest)) ∧ scope ≠ .tables ∧
        readSide scope .nothing rest = .ok (inner, command) ∧
        (consistent inner.options = true ∧ consistent outer.options = true) ∧
        options = outer.options.under inner.options ∧
        inner.generate = ⟨some table, input, output, mode, dryRun⟩ := by
  unfold Invocation.ofArguments
  cases readSide .program .nothing args with
  | error refusal => simp
  | ok read =>
    obtain ⟨outer, command⟩ := read
    cases command with
    | none => simp
    | some command =>
      obtain ⟨scope, rest⟩ := command
      cases hside : readSide scope .nothing rest with
      | error refusal => simp [hside]
      | ok side =>
        obtain ⟨⟨innerOptions, generate⟩, command⟩ := side
        obtain ⟨table', input', output', mode', dryRun'⟩ := generate
        by_cases hinner : consistent innerOptions = true
        · by_cases houter : consistent outer.options = true
          · by_cases hscope : scope = .tables
            · subst hscope
              simp [hside, hinner, houter]
            · cases table' with
              | none => simp [hside, hinner, houter, hscope]
              | some table' =>
                simp [hside, hinner, houter, hscope, @eq_comm _ options]
          · simp [hside, hinner, houter]
        · simp [hside, hinner]

/-- **The option can be added** to a command that generates a table without it, and changes nothing
else that is asked for. -/
theorem ofArguments_dryRun {args : List String} {options : Options} {table : Table}
    {input output : Option Path} {mode : Option CavlcMode}
    (h : Invocation.ofArguments args = .ok ⟨options, .generate table input output mode false⟩) :
    ∃ before rest, args = before ++ "generate" :: rest ∧
      Invocation.ofArguments (before ++ "generate" :: "--dry-run" :: rest) =
        .ok ⟨options, .generate table input output mode true⟩ := by
  obtain ⟨outer, scope, rest, inner, command, hprogram, htables, hside, hconsistent, rfl, hinner⟩ :=
    ofArguments_generate_iff.1 h
  obtain ⟨before, name, rfl, hname, hbefore⟩ := readSide_command hprogram
  obtain ⟨rfl, rfl⟩ := hname.resolve_right htables
  have hdry : inner.generate.dryRun = false := by rw [hinner]
  have hread := (readSide_neutral hside hdry).2
  rw [← readSide_option] at hread
  refine ⟨before, rest, rfl, ofArguments_generate_iff.2 ?_⟩
  refine ⟨outer, .generate, "--dry-run" :: rest, inner.dry, command, hbefore _, htables, hread,
    hconsistent, rfl, ?_⟩
  simp only [Given.dry, hinner]

end EntropyTables.Command
