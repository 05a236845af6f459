import Mathlib.Data.List.Basic
import ModalLexer.Proofs.Argument

/-! Precedence of options. Of the arguments for one option the last decides, if its value is known; a
value that is not known leaves what the arguments before it gave. -/
namespace ModalLexer

def LastGiven (name value : String) (before args : List String) : Prop :=
  ∃ after, args = before ++ (name ++ value) :: after ∧ ∀ arg ∈ after, ∀ other, arg ≠ name ++ other

section

variable {α : Type} {field : Options → α} {name value : String} {before args : List String}

def Governs (name : String) (field : Options → α) : Prop :=
  ∀ arg, (∀ value, arg ≠ name ++ value) →
    ∀ options, field ((Setting.ofArg arg).apply options) = field options

theorem fieldKept (governs : Governs name field) (absent : ∀ arg ∈ args, ∀ value, arg ≠ name ++ value)
    (options : Options) :
    field ((args.map Setting.ofArg).foldl Setting.apply options) = field options := by
  induction args generalizing options with
  | nil => rfl
  | cons arg args ih =>
    obtain ⟨here, later⟩ := List.forall_mem_cons.mp absent
    rw [List.map_cons, List.foldl_cons, ih later, governs arg here]

theorem fieldDefault (governs : Governs name field)
    (absent : ∀ arg ∈ args, ∀ value, arg ≠ name ++ value) :
    field (.ofArgs args) = field default := fieldKept governs absent default

theorem fieldLast (governs : Governs name field) (last : LastGiven name value before args) :
    field (.ofArgs args) = field ((Setting.ofArg (name ++ value)).apply (.ofArgs before)) := by
  obtain ⟨after, rfl, absent⟩ := last
  rw [Options.ofArgs, List.map_append, List.foldl_append, List.map_cons, List.foldl_cons,
    fieldKept governs absent]
  rfl

end

theorem modeGoverned : Governs "--mode=" Options.mode := by
  intro arg absent options
  have sets := argSets arg
  generalize Setting.ofArg arg = setting at sets
  cases sets with
  | modeless => exact absurd rfl (absent "")
  | mode => exact absurd rfl (absent _)
  | unknownMode | format | unknownFormat | spans | other => rfl

theorem formatGoverned : Governs "--format=" Options.format := by
  intro arg absent options
  have sets := argSets arg
  generalize Setting.ofArg arg = setting at sets
  cases sets with
  | format => exact absurd rfl (absent _)
  | modeless | mode | unknownMode | unknownFormat | spans | other => rfl

/-- The last argument for a mode decides it where its value is empty or names one, and so does the
last argument for a format where its value names one. Any other value leaves the option as the
arguments before it gave it, which need not be the default. -/
theorem lastKnownDecides (args : List String) :
    ((∀ arg ∈ args, ∀ value, arg ≠ "--mode=" ++ value) →
        (Options.ofArgs args).mode = some .basic) ∧
      (∀ before value, LastGiven "--mode=" value before args →
        (value = "" → (Options.ofArgs args).mode = none) ∧
        (∀ mode : Mode, value.toList.map Char.toLower = mode.name.toList →
          (Options.ofArgs args).mode = some mode) ∧
        (value ≠ "" → (∀ mode : Mode, value.toList.map Char.toLower ≠ mode.name.toList) →
          (Options.ofArgs args).mode = (Options.ofArgs before).mode)) ∧
      ((∀ arg ∈ args, ∀ value, arg ≠ "--format=" ++ value) →
        (Options.ofArgs args).format = .plain) ∧
      ∀ before value, LastGiven "--format=" value before args →
        (∀ format : Format, value = format.name → (Options.ofArgs args).format = format) ∧
        ((∀ format : Format, value ≠ format.name) →
          (Options.ofArgs args).format = (Options.ofArgs before).format) := by
  refine ⟨fieldDefault modeGoverned, ?_, fieldDefault formatGoverned, ?_⟩
  · intro before value last
    rw [fieldLast modeGoverned last]
    refine ⟨?_, ?_, ?_⟩
    · rintro rfl
      rw [String.append_empty, setsExact.mpr .modeless]
      rfl
    · intro mode named
      rw [setsExact.mpr (.mode named)]
      rfl
    · intro given unknown
      rw [setsExact.mpr (.unknownMode given unknown)]
      rfl
  · intro before value last
    rw [fieldLast formatGoverned last]
    refine ⟨?_, ?_⟩
    · rintro format rfl
      rw [setsExact.mpr (.format format)]
      rfl
    · intro unknown
      rw [setsExact.mpr (.unknownFormat unknown)]
      rfl

theorem emptyModeDecides :
    let early := ["--mode=EXTENDED", "--format=json"]
    let args := early ++ ["--mode=", "--format=xml", "--format=debug"]
    LastGiven "--mode=" "" early args ∧ (Options.ofArgs args).mode = none ∧
      LastGiven "--mode=" "EXTENDED" [] early ∧ (Options.ofArgs early).mode = some .extended ∧
      LastGiven "--format=" "debug" (early ++ ["--mode=", "--format=xml"]) args ∧
      (Options.ofArgs args).format = .debug := by
  intro early args
  have noMode : LastGiven "--mode=" "" early args := by
    refine ⟨["--format=xml", "--format=debug"], by decide, ?_⟩
    simp only [List.forall_mem_cons]
    exact ⟨valueNone.mp (by decide), valueNone.mp (by decide), List.forall_mem_nil _⟩
  have capitals : LastGiven "--mode=" "EXTENDED" [] early :=
    ⟨["--format=json"], by decide, List.forall_mem_singleton.mpr (valueNone.mp (by decide))⟩
  have format : LastGiven "--format=" "debug" (early ++ ["--mode=", "--format=xml"]) args :=
    ⟨[], by decide, List.forall_mem_nil _⟩
  exact ⟨noMode, ((lastKnownDecides args).2.1 _ _ noMode).1 rfl, capitals,
    ((lastKnownDecides early).2.1 _ _ capitals).2.1 .extended (by decide), format,
    ((lastKnownDecides args).2.2.2 _ _ format).1 .debug rfl⟩

theorem unknownValuesKeep :
    let early := ["--mode=extended", "--format=json"]
    let args := early ++ ["--mode=raw", "--format=xml"]
    LastGiven "--mode=" "raw" early args ∧
      (∀ mode : Mode, "raw".toList.map Char.toLower ≠ mode.name.toList) ∧
      "warning: unknown mode `raw` (expected `basic` or `extended`), using basic" ∈
        (Options.warnings args).map Warning.message ∧
      (Options.ofArgs args).mode ≠ some .basic ∧
      LastGiven "--format=" "xml" (early ++ ["--mode=raw"]) args ∧
      (∀ format : Format, "xml" ≠ format.name) ∧ (Options.ofArgs args).format ≠ .plain := by
  intro early args
  refine ⟨⟨["--format=xml"], by decide, ?_⟩, ?_, by decide, by decide, ⟨[], by decide, ?_⟩, ?_,
    by decide⟩
  · exact List.forall_mem_singleton.mpr (valueNone.mp (by decide))
  · intro mode
    cases mode <;> decide
  · exact List.forall_mem_nil _
  · intro format
    cases format <;> decide

end ModalLexer
