import Mathlib.Data.List.Basic
import ModalLexer.Invocation

/-! Arguments: what each sets, and which of them warn. An argument that sets or warns is a flag, so
the options of a run are those of all its arguments. -/
namespace ModalLexer

theorem valueExact {name arg value : String} :
    valueOf? name arg = some value ↔ arg = name ++ value := by
  rw [valueOf?, Option.map_eq_some_iff, ← String.toList_inj, String.toList_append]
  constructor
  · intro found
    obtain ⟨rest, front, same⟩ := found
    rw [← List.isPrefixOf?_eq_some_iff_append_eq.mp front, ← same, String.toList_ofList]
  · intro same
    exact ⟨value.toList, List.isPrefixOf?_eq_some_iff_append_eq.mpr same.symm, String.ofList_toList⟩

theorem valueNone {name arg : String} : valueOf? name arg = none ↔ ∀ value, arg ≠ name ++ value := by
  rw [Option.eq_none_iff_forall_ne_some]
  exact forall_congr' fun value => not_congr valueExact

namespace Mode

theorem ofNameExact {text : String} {m : Mode} :
    ofName text = .ok m ↔ text.toList.map Char.toLower = m.name.toList := by
  have apart : extended.name.toList ≠ basic.name.toList := by decide
  rw [ofName]
  cases m with
  | basic => split_ifs with first second <;> simp [first]
  | extended =>
    split_ifs with first second
    · simp [first, apart.symm]
    · simp [second]
    · simp [second]

theorem ofNameUnknown {text : String} {e : UnknownMode} :
    ofName text = .error e ↔ e = ⟨text⟩ ∧ ∀ m : Mode, text.toList.map Char.toLower ≠ m.name.toList := by
  constructor
  · intro refused
    have unknown : ∀ m : Mode, text.toList.map Char.toLower ≠ m.name.toList := by
      intro m named
      rw [ofNameExact.mpr named] at refused
      contradiction
    rw [ofName, if_neg (unknown basic), if_neg (unknown extended)] at refused
    exact ⟨(Except.error.inj refused).symm, unknown⟩
  · intro refused
    obtain ⟨rfl, unknown⟩ := refused
    rw [ofName, if_neg (unknown basic), if_neg (unknown extended)]

end Mode

namespace Format

theorem ofNameExact {text : String} {f : Format} : ofName? text = some f ↔ text = f.name := by
  constructor
  · intro found
    rw [ofName?] at found
    split_ifs at found with plain debug json
    all_goals cases found; assumption
  · intro same
    subst same
    cases f <;> rfl

end Format

inductive Sets : String → Setting → Prop where
  | modeless : Sets "--mode=" (.mode none)
  | mode {name : String} {m : Mode} (named : name.toList.map Char.toLower = m.name.toList) :
      Sets ("--mode=" ++ name) (.mode (some m))
  | unknownMode {name : String} (given : name ≠ "")
      (unknown : ∀ m : Mode, name.toList.map Char.toLower ≠ m.name.toList) :
      Sets ("--mode=" ++ name) (.unknown (.unknownMode ⟨name⟩))
  | format (f : Format) : Sets ("--format=" ++ f.name) (.format f)
  | unknownFormat {name : String} (unknown : ∀ f : Format, name ≠ f.name) :
      Sets ("--format=" ++ name) (.unknown (.unknownFormat name))
  | spans : Sets "--spans" .spans
  | other {arg : String} (mode : ∀ name, arg ≠ "--mode=" ++ name)
      (format : ∀ name, arg ≠ "--format=" ++ name) (spans : arg ≠ "--spans") : Sets arg .other

namespace Setting

theorem ofModeArg (name : String) : ofArg ("--mode=" ++ name) = ofModeName name := by
  rw [ofArg, valueExact.mpr rfl]

theorem ofFormatArg (name : String) : ofArg ("--format=" ++ name) = ofFormatName name := by
  have apart : valueOf? "--mode=" ("--format=" ++ name) = none :=
    valueNone.mpr fun value same => by simpa using congrArg String.toList same
  rw [ofArg, apart, valueExact.mpr rfl]

end Setting

theorem modeNameSets (name : String) : Sets ("--mode=" ++ name) (.ofModeName name) := by
  rw [Setting.ofModeName]
  split_ifs with given
  · subst given
    exact .modeless
  · cases read : Mode.ofName name with
    | ok m => exact .mode (Mode.ofNameExact.mp read)
    | error e =>
      obtain ⟨rfl, unknown⟩ := Mode.ofNameUnknown.mp read
      exact .unknownMode given unknown

theorem formatNameSets (name : String) : Sets ("--format=" ++ name) (.ofFormatName name) := by
  rw [Setting.ofFormatName]
  cases read : Format.ofName? name with
  | some f =>
    rw [Format.ofNameExact.mp read]
    exact .format f
  | none =>
    refine .unknownFormat fun f same => ?_
    rw [Format.ofNameExact.mpr same] at read
    contradiction

theorem argSets (arg : String) : Sets arg (.ofArg arg) := by
  cases mode : valueOf? "--mode=" arg with
  | some name =>
    rw [valueExact.mp mode, Setting.ofModeArg]
    exact modeNameSets name
  | none =>
    cases format : valueOf? "--format=" arg with
    | some name =>
      rw [valueExact.mp format, Setting.ofFormatArg]
      exact formatNameSets name
    | none =>
      rw [Setting.ofArg, mode, format]
      split_ifs with spans
      · subst spans
        exact .spans
      · exact .other (valueNone.mp mode) (valueNone.mp format) spans

theorem setsExact {arg : String} {setting : Setting} :
    Setting.ofArg arg = setting ↔ Sets arg setting := by
  constructor
  · intro same
    exact same ▸ argSets arg
  · intro sets
    cases sets with
    | modeless | spans => decide
    | @mode name m named =>
      have given : name ≠ "" := by
        intro empty
        subst empty
        cases m <;> contradiction
      rw [Setting.ofModeArg, Setting.ofModeName, if_neg given, Mode.ofNameExact.mpr named]
    | unknownMode given unknown =>
      rw [Setting.ofModeArg, Setting.ofModeName, if_neg given,
        Mode.ofNameUnknown.mpr ⟨rfl, unknown⟩]
    | format f =>
      rw [Setting.ofFormatArg, Setting.ofFormatName, Format.ofNameExact.mpr rfl]
    | @unknownFormat name unknown =>
      have none : Format.ofName? name = none :=
        Option.eq_none_iff_forall_ne_some.mpr fun f found =>
          unknown f (Format.ofNameExact.mp found)
      rw [Setting.ofFormatArg, Setting.ofFormatName, none]
    | other mode format spans =>
      rw [Setting.ofArg, valueNone.mpr mode, valueNone.mpr format]
      exact if_neg spans

theorem dashFlag {arg : String} (dash : arg.toList.head? = some '-')
    (apart : ∀ text, arg ≠ "--expr=" ++ text) : Role.ofArg arg = .flag := by
  rw [Role.ofArg, valueNone.mpr apart]
  exact if_pos dash

theorem setterFlag {arg : String} {setting : Setting} (sets : Sets arg setting)
    (acts : setting ≠ .other) : Role.ofArg arg = .flag := by
  have flag {start value : String} (dash : (start ++ value).toList.head? = some '-')
      (third : (start ++ value).toList[2]? ≠ some 'e') : Role.ofArg (start ++ value) = .flag := by
    refine dashFlag dash fun text same => third ?_
    rw [same]
    simp
  cases sets with
  | modeless | spans => decide
  | mode | unknownMode | format | unknownFormat => exact flag (by simp) (by simp)
  | other => contradiction

theorem unflaggedSets {arg : String} (unflagged : Role.ofArg arg ≠ .flag) :
    Setting.ofArg arg = .other := by
  by_contra acts
  exact unflagged (setterFlag (argSets arg) acts)

theorem warningExact {setting : Setting} {warning : Warning} :
    setting.warning? = some warning ↔ setting = .unknown warning := by
  cases setting <;> simp [Setting.warning?]

theorem Options.warningsCons (arg : String) (args : List String) :
    warnings (arg :: args) = (Setting.ofArg arg).warning?.toList ++ warnings args := by
  rw [warnings, List.filterMap_cons]
  cases (Setting.ofArg arg).warning? <;> rfl

namespace Invocation

theorem flagsWarn (args : List String) : warnings args = Options.warnings args := by
  rw [warnings, Options.warnings, Options.warnings, flags, List.filterMap_filter]
  refine List.filterMap_congr fun arg _ => ?_
  split_ifs with flag
  · rfl
  · rw [unflaggedSets (by simpa using flag)]
    rfl

end Invocation

inductive Warns : List String → List Warning → Prop where
  | nil : Warns [] []
  | unknown {arg args warning warnings} (here : Sets arg (.unknown warning))
      (later : Warns args warnings) : Warns (arg :: args) (warning :: warnings)
  | quiet {arg args warnings} (here : ∀ warning, ¬ Sets arg (.unknown warning))
      (later : Warns args warnings) : Warns (arg :: args) warnings

theorem warnsExact {args : List String} {warnings : List Warning} :
    Options.warnings args = warnings ↔ Warns args warnings := by
  have here {arg warning} : (Setting.ofArg arg).warning? = some warning ↔ Sets arg (.unknown warning) :=
    warningExact.trans setsExact
  constructor
  · intro same
    subst same
    induction args with
    | nil => exact .nil
    | cons arg args ih =>
      cases said : (Setting.ofArg arg).warning? with
      | some warning =>
        rw [Options.warningsCons, said]
        exact .unknown (here.mp said) ih
      | none =>
        rw [Options.warningsCons, said]
        refine .quiet (fun warning sets => ?_) ih
        rw [here.mpr sets] at said
        contradiction
  · intro warns
    induction warns with
    | nil => rfl
    | unknown sets _ ih =>
      rw [Options.warningsCons, here.mpr sets, ih]
      rfl
    | quiet silent _ ih =>
      have said := Option.eq_none_iff_forall_ne_some.mpr fun w same => silent w (here.mp same)
      rw [Options.warningsCons, said, ih]
      rfl

end ModalLexer
