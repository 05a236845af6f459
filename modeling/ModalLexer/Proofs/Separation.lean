import ModalLexer.Proofs.Precedence

/-! Options of different kinds. What an option comes to hangs on the arguments for it alone, in their
order, and so do the warnings about it; how they are mixed with others plays no part. -/
namespace ModalLexer

namespace Warning

def mode? : Warning → Option UnknownMode
  | unknownMode e => some e
  | unknownFormat _ => none

def format? : Warning → Option String
  | unknownMode _ => none
  | unknownFormat name => some name

end Warning

def Options.named (name : String) (args : List String) : List String :=
  args.filter fun arg => name.toList <+: arg.toList

open Options (named)

variable {α : Type} {field : Options → α} {name arg : String} {args others : List String}

theorem startExact : name.toList <+: arg.toList ↔ ∃ value, arg = name ++ value := by
  constructor
  · rintro ⟨rest, same⟩
    refine ⟨String.ofList rest, ?_⟩
    rw [← String.toList_inj, String.toList_append, String.toList_ofList, same]
  · rintro ⟨value, rfl⟩
    rw [String.toList_append]
    exact List.prefix_append _ _

theorem unstarted (apart : ¬ name.toList <+: arg.toList) : ∀ value, arg ≠ name ++ value :=
  fun value same => apart (startExact.mpr ⟨value, same⟩)

def Steady (field : Options → α) : Prop :=
  ∀ arg options others, field options = field others →
    field ((Setting.ofArg arg).apply options) = field ((Setting.ofArg arg).apply others)

theorem modeSteady : Steady Options.mode := by
  intro arg options others same
  cases Setting.ofArg arg with
  | mode => rfl
  | format | spans | unknown | other => exact same

theorem formatSteady : Steady Options.format := by
  intro arg options others same
  cases Setting.ofArg arg with
  | format => rfl
  | mode | spans | unknown | other => exact same

/- By induction on the arguments: two runs that agree on the field so far keep doing so, where the one
passes over what has no part in it. -/
theorem fieldNamed (governs : Governs name field) (steady : Steady field) {options passed : Options}
    (same : field passed = field options) :
    field (((named name args).map Setting.ofArg).foldl Setting.apply passed) =
      field ((args.map Setting.ofArg).foldl Setting.apply options) := by
  induction args generalizing options passed with
  | nil => exact same
  | cons arg args ih =>
    by_cases start : name.toList <+: arg.toList
    · rw [named, List.filter_cons_of_pos (by simpa using start)]
      exact ih (steady arg passed options same)
    · rw [named, List.filter_cons_of_neg (by simpa using start)]
      exact ih (same.trans (governs arg (unstarted start) options).symm)

theorem fieldAlone (governs : Governs name field) (steady : Steady field)
    (same : named name args = named name others) : field (.ofArgs args) = field (.ofArgs others) := by
  have one := @fieldNamed _ field name args governs steady _ _ (Eq.refl (field default))
  have two := @fieldNamed _ field name others governs steady _ _ (Eq.refl (field default))
  rw [same] at one
  exact one.symm.trans two

theorem optionsAlike {options others : Options} (mode : options.mode = others.mode)
    (format : options.format = others.format) (spans : options.spans = others.spans) :
    options = others := by
  obtain ⟨_, _, _⟩ := options
  obtain ⟨_, _, _⟩ := others
  obtain ⟨rfl, rfl, rfl⟩ := And.intro mode (And.intro format spans)
  rfl

theorem spansSet (setting : Setting) (options : Options) :
    (setting.apply options).spans = true ↔ options.spans = true ∨ setting = .spans := by
  cases setting <;> simp [Setting.apply]

theorem spansFrom (args : List String) (options : Options) :
    ((args.map Setting.ofArg).foldl Setting.apply options).spans = true ↔
      options.spans = true ∨ "--spans" ∈ args := by
  induction args generalizing options with
  | nil => simp
  | cons arg args ih =>
    have here : Setting.ofArg arg = .spans ↔ "--spans" = arg := by
      rw [setsExact]
      constructor
      · intro sets
        cases sets
        rfl
      · rintro rfl
        exact .spans
    rw [List.map_cons, List.foldl_cons, ih, spansSet, here, List.mem_cons, or_assoc]

theorem spansGiven (args : List String) : (Options.ofArgs args).spans = true ↔ "--spans" ∈ args := by
  rw [Options.ofArgs, spansFrom]
  simp [default]

theorem warningsNamed {β : Type} {kind? : Warning → Option β}
    (only : ∀ arg warning, Sets arg (.unknown warning) → ¬ name.toList <+: arg.toList →
      kind? warning = none) (args : List String) :
    (Options.warnings (named name args)).filterMap kind? =
      (Options.warnings args).filterMap kind? := by
  rw [Options.warnings, Options.warnings, named, List.filterMap_filterMap, List.filterMap_filterMap,
    List.filterMap_filter]
  refine List.filterMap_congr fun arg _ => ?_
  by_cases start : name.toList <+: arg.toList
  · rw [if_pos (by simpa using start)]
  · rw [if_neg (by simpa using start)]
    cases said : (Setting.ofArg arg).warning? with
    | none => rfl
    | some warning => exact (only arg warning (setsExact.mp (warningExact.mp said)) start).symm

theorem modesWarned (arg : String) (warning : Warning) (sets : Sets arg (.unknown warning))
    (apart : ¬ "--mode=".toList <+: arg.toList) : warning.mode? = none := by
  cases sets with
  | unknownMode => exact absurd (startExact.mpr ⟨_, rfl⟩) apart
  | unknownFormat => rfl

theorem formatsWarned (arg : String) (warning : Warning) (sets : Sets arg (.unknown warning))
    (apart : ¬ "--format=".toList <+: arg.toList) : warning.format? = none := by
  cases sets with
  | unknownMode => rfl
  | unknownFormat => exact absurd (startExact.mpr ⟨_, rfl⟩) apart

/-- Options hang on the arguments for modes, on those for formats, each in their order, and on
whether spans are asked for. Of warnings about modes the order is that of the arguments for modes,
and so for formats. Any other argument could be left out. -/
theorem optionsApart :
    (∀ args others : List String, named "--mode=" args = named "--mode=" others →
        named "--format=" args = named "--format=" others → ("--spans" ∈ args ↔ "--spans" ∈ others) →
        Options.ofArgs args = Options.ofArgs others ∧
          (Options.warnings args).filterMap Warning.mode? =
            (Options.warnings others).filterMap Warning.mode? ∧
          (Options.warnings args).filterMap Warning.format? =
            (Options.warnings others).filterMap Warning.format?) ∧
      ∀ (front : List String) (arg : String) (back : List String),
        ¬ "--mode=".toList <+: arg.toList → ¬ "--format=".toList <+: arg.toList → arg ≠ "--spans" →
        Options.ofArgs (front ++ arg :: back) = Options.ofArgs (front ++ back) ∧
          Options.warnings (front ++ arg :: back) = Options.warnings (front ++ back) := by
  refine ⟨?_, ?_⟩
  · intro args others modes formats spans
    refine ⟨?_, ?_, ?_⟩
    · have mode := fieldAlone modeGoverned modeSteady modes
      have format := fieldAlone formatGoverned formatSteady formats
      have shown : (Options.ofArgs args).spans = (Options.ofArgs others).spans := by
        rw [Bool.eq_iff_iff, spansGiven, spansGiven, spans]
      exact optionsAlike mode format shown
    · rw [← warningsNamed modesWarned args, ← warningsNamed modesWarned others, modes]
    · rw [← warningsNamed formatsWarned args, ← warningsNamed formatsWarned others, formats]
  · intro front arg back mode format spans
    have idle : Setting.ofArg arg = .other :=
      setsExact.mpr (.other (unstarted mode) (unstarted format) spans)
    refine ⟨?_, ?_⟩
    · rw [Options.ofArgs, Options.ofArgs, List.map_append, List.map_append, List.map_cons, idle,
        List.foldl_append, List.foldl_append, List.foldl_cons]
      rfl
    · rw [Options.warnings, Options.warnings, List.filterMap_append, List.filterMap_append,
        List.filterMap_cons, idle]
      rfl

theorem mixedAlike :
    let args := ["--mode=raw", "--format=json", "--spans", "--format=xml", "--mode="]
    let mixed := ["--format=json", "--mode=raw", "--spans", "--mode=", "--format=xml", "--spans"]
    let near := "--spans=x"
    (named "--mode=" args = named "--mode=" mixed ∧ named "--format=" args = named "--format=" mixed ∧
        ("--spans" ∈ args ↔ "--spans" ∈ mixed)) ∧
      Options.ofArgs args = Options.ofArgs mixed ∧ Options.ofArgs mixed = ⟨none, .json, true⟩ ∧
      (Options.warnings mixed).filterMap Warning.mode? = [⟨"raw"⟩] ∧
      (Options.warnings mixed).filterMap Warning.format? = ["xml"] ∧
      (¬ "--mode=".toList <+: near.toList ∧ ¬ "--format=".toList <+: near.toList ∧
        near ≠ "--spans") ∧
      Options.ofArgs (["--mode=raw"] ++ near :: ["--mode=x"]) =
        Options.ofArgs (["--mode=raw"] ++ ["--mode=x"]) := by
  intro args mixed near
  have modes : named "--mode=" args = named "--mode=" mixed := by decide
  have formats : named "--format=" args = named "--format=" mixed := by decide
  have spans : "--spans" ∈ args ↔ "--spans" ∈ mixed := by decide
  have apart : ¬ "--mode=".toList <+: near.toList ∧ ¬ "--format=".toList <+: near.toList ∧
      near ≠ "--spans" := by decide
  obtain ⟨alike, mode, format⟩ := optionsApart.1 args mixed modes formats spans
  exact ⟨⟨modes, formats, spans⟩, alike, alike.symm.trans (by decide), mode.symm.trans (by decide),
    format.symm.trans (by decide), apart,
    (optionsApart.2 ["--mode=raw"] near ["--mode=x"] apart.1 apart.2.1 apart.2.2).1⟩

end ModalLexer
