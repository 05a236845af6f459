import Mathlib.Data.List.Basic
import ModalLexer.Proofs.Argument

/-! Roles of arguments. What is to be read hangs on the arguments that are no flags, in their order:
a file has to come before all other inputs, and the last inline text takes their place. -/
namespace ModalLexer

inductive Plays : String → Role → Prop where
  | inline (text : String) : Plays ("--expr=" ++ text) (.inline text)
  | flag {arg : String} (apart : ∀ text, arg ≠ "--expr=" ++ text)
      (dash : arg.toList.head? = some '-') : Plays arg .flag
  | positional {arg : String} (dashless : arg.toList.head? ≠ some '-') : Plays arg .positional

theorem rolePlays (arg : String) : Plays arg (.ofArg arg) := by
  rw [Role.ofArg]
  cases inline : valueOf? "--expr=" arg with
  | some text =>
    rw [valueExact.mp inline]
    exact .inline text
  | none =>
    dsimp only
    split_ifs with dash
    · exact .flag (valueNone.mp inline) dash
    · exact .positional dash

theorem rolesExact {arg : String} {role : Role} : Role.ofArg arg = role ↔ Plays arg role := by
  constructor
  · rintro rfl
    exact rolePlays arg
  · intro plays
    cases plays with
    | inline text => rw [Role.ofArg, valueExact.mpr rfl]
    | flag apart dash => exact dashFlag dash apart
    | positional dashless =>
      have apart : ∀ text, arg ≠ "--expr=" ++ text := by
        rintro text rfl
        exact dashless (by simp)
      rw [Role.ofArg, valueNone.mpr apart]
      exact if_neg dashless

theorem playsUnique {arg : String} {role other : Role} (one : Plays arg role)
    (two : Plays arg other) : role = other :=
  (rolesExact.mpr one).symm.trans (rolesExact.mpr two)

def Crowded (before : List String) (arg : String) : Prop :=
  Plays arg .positional ∧ ∃ other ∈ before, ¬ Plays other .flag

def Roomy (args : List String) : Prop :=
  ∀ front arg back, args = front ++ arg :: back → ¬ Crowded front arg

def FirstCrowded (args : List String) (arg : String) : Prop :=
  ∃ before after, args = before ++ arg :: after ∧ Crowded before arg ∧ Roomy before

inductive Chosen (args : List String) : Input → Prop where
  | inline {before text after} (split : args = before ++ ("--expr=" ++ text) :: after)
      (last : ∀ arg ∈ after, ∀ other, ¬ Plays arg (.inline other)) : Chosen args (.inline text)
  | file {before path after} (split : args = before ++ path :: after)
      (plays : Plays path .positional) (alone : ∀ arg ∈ before ++ after, Plays arg .flag) :
      Chosen args (.file path)

inductive Found (passed : List String) : Option Input → Prop where
  | none (flags : ∀ arg ∈ passed, Plays arg .flag) : Found passed none
  | some {input} (chosen : Chosen passed input) : Found passed (some input)

inductive Settled (args : List String) : Except UsageFault Input → Prop where
  | crowded {arg} (first : FirstCrowded args arg) : Settled args (.error (.unexpectedArgument arg))
  | missing (flags : ∀ arg ∈ args, Plays arg .flag) : Settled args (.error .missingInput)
  | input {input} (roomy : Roomy args) (chosen : Chosen args input) : Settled args (.ok input)

variable {args passed : List String} {arg : String} {input : Input}

theorem chosenInput (chosen : Chosen args input) : ∃ other ∈ args, ¬ Plays other .flag := by
  cases chosen with
  | @inline before text after split =>
    refine ⟨"--expr=" ++ text, by simp [split], fun flag => ?_⟩
    exact Role.noConfusion (playsUnique (.inline text) flag)
  | @file before path after split plays =>
    exact ⟨path, by simp [split], fun flag => Role.noConfusion (playsUnique plays flag)⟩

theorem chosenFlag (chosen : Chosen passed input) (flag : Plays arg .flag) :
    Chosen (passed ++ [arg]) input := by
  cases chosen with
  | @inline before text after split last =>
    have split : passed ++ [arg] = before ++ ("--expr=" ++ text) :: (after ++ [arg]) := by
      rw [split, List.append_assoc, List.cons_append]
    refine .inline split (List.forall_mem_append.mpr ⟨last, ?_⟩)
    rw [List.forall_mem_singleton]
    exact fun other inline => Role.noConfusion (playsUnique inline flag)
  | @file before path after split plays alone =>
    have split : passed ++ [arg] = before ++ path :: (after ++ [arg]) := by
      rw [split, List.append_assoc, List.cons_append]
    refine .file split plays ?_
    rw [← List.append_assoc, List.forall_mem_append, List.forall_mem_singleton]
    exact ⟨alone, flag⟩

theorem roomyNil : Roomy [] := by
  intro front arg back split
  simp at split

theorem roomySnoc (roomy : Roomy passed) (free : ¬ Crowded passed arg) : Roomy (passed ++ [arg]) := by
  intro front other back split
  rcases List.eq_nil_or_concat' back with rfl | ⟨body, last, rfl⟩
  · obtain ⟨rfl, same⟩ := List.append_inj' split rfl
    cases same
    exact free
  · rw [← List.cons_append, ← List.append_assoc] at split
    exact roomy front other body (List.append_inj' split rfl).1

theorem foundFlag {found : Option Input} (before : Found passed found) (flag : Plays arg .flag) :
    Found (passed ++ [arg]) found := by
  cases before with
  | none flags =>
    exact .none (List.forall_mem_append.mpr ⟨flags, List.forall_mem_singleton.mpr flag⟩)
  | some chosen => exact .some (chosenFlag chosen flag)

theorem freeOf {role : Role} (plays : Plays arg role) (other : role ≠ .positional) :
    ¬ Crowded passed arg :=
  fun crowded => other (playsUnique plays crowded.1)

theorem inputSettled {found : Option Input} (before : Found passed found) (roomy : Roomy passed)
    (rest : List String) : Settled (passed ++ rest) (Invocation.inputFrom found rest) := by
  induction rest generalizing passed found with
  | nil =>
    rw [List.append_nil]
    cases before with
    | none flags => exact .missing flags
    | some chosen => exact .input roomy chosen
  | cons arg rest ih =>
    have whole : passed ++ arg :: rest = passed ++ [arg] ++ rest := by simp
    have plays := rolePlays arg
    rw [Invocation.inputFrom.eq_def]
    dsimp only
    generalize Role.ofArg arg = role at plays
    cases plays with
    | inline text =>
      rw [whole]
      refine ih (.some (.inline rfl (by simp))) (roomySnoc roomy ?_)
      exact freeOf (.inline text) (by simp)
    | flag apart dash =>
      rw [whole]
      have flag : Plays arg .flag := .flag apart dash
      exact ih (foundFlag before flag) (roomySnoc roomy (freeOf flag (by simp)))
    | positional dashless =>
      have path : Plays arg .positional := .positional dashless
      cases before with
      | none flags =>
        rw [whole]
        refine ih (.some (.file rfl path ?_)) (roomySnoc roomy ?_)
        · rwa [List.append_nil]
        · rintro ⟨_, other, member, input⟩
          exact input (flags other member)
      | some chosen => exact .crowded ⟨passed, rest, rfl, ⟨path, chosenInput chosen⟩, roomy⟩

theorem argsSettled (args : List String) : Settled args (Invocation.inputFrom none args) :=
  inputSettled (.none (List.forall_mem_nil _)) roomyNil args

theorem crowdedRoomless (first : FirstCrowded args arg) : ¬ Roomy args := by
  obtain ⟨before, after, split, crowded, _⟩ := first
  exact fun roomy => roomy before arg after split crowded

theorem firstUnique {other : String} (one : FirstCrowded args arg)
    (two : FirstCrowded args other) : arg = other := by
  obtain ⟨before, after, split, crowded, roomy⟩ := one
  obtain ⟨front, back, whole, full, free⟩ := two
  rcases List.append_eq_append_iff.mp (split.symm.trans whole) with
    ⟨gap, further, same⟩ | ⟨gap, further, same⟩
  · cases gap with
    | nil => exact (List.cons.inj same).1
    | cons c gap =>
      obtain ⟨rfl, _⟩ := List.cons.inj same
      exact absurd crowded (free before arg gap further)
  · cases gap with
    | nil => exact (List.cons.inj same).1.symm
    | cons c gap =>
      obtain ⟨rfl, _⟩ := List.cons.inj same
      exact absurd full (roomy front other gap further)

namespace Options

theorem flagsSet (args : List String) : ofArgs (Invocation.flags args) = ofArgs args := by
  unfold ofArgs
  generalize (default : Options) = options
  induction args generalizing options with
  | nil => rfl
  | cons arg args ih =>
    by_cases flag : Role.ofArg arg = .flag
    · rw [Invocation.flags, List.filter_cons_of_pos (by simpa using flag)]
      exact ih _
    · rw [Invocation.flags, List.filter_cons_of_neg (by simpa using flag), List.map_cons,
        List.foldl_cons, unflaggedSets flag]
      exact ih _

end Options

namespace Invocation

def inputs (args : List String) : List String := args.filter fun arg => Role.ofArg arg ≠ .flag

theorem inputFromInputs (found : Option Input) (args : List String) :
    inputFrom found (inputs args) = inputFrom found args := by
  induction args generalizing found with
  | nil => rfl
  | cons arg args ih =>
    by_cases flag : Role.ofArg arg = .flag
    · rw [inputs, List.filter_cons_of_neg (by simpa using flag), ← inputs, ih]
      simp only [inputFrom, flag]
    · rw [inputs, List.filter_cons_of_pos (by simpa using flag), ← inputs, inputFrom.eq_def,
        inputFrom.eq_def found (arg :: args)]
      dsimp only
      cases role : Role.ofArg arg with
      | inline text => exact ih _
      | flag => contradiction
      | positional =>
        cases found with
        | none => exact ih _
        | some input => rfl

theorem inputOfArgs (args : List String) :
    (ofArgs args).map Invocation.input = inputFrom none args := by
  rw [ofArgs]
  cases inputFrom none args <;> rfl

theorem ofArgsExact (args : List String) :
    ofArgs args = (inputFrom none args).map fun input => ⟨input, .ofArgs args⟩ := by
  rw [ofArgs, Options.flagsSet]

end Invocation

/-- Arguments name an input, or are refused. Refused is the first path that has an input before it;
if there is none, arguments without any input are. The options are those of all arguments, and which
flags there are, and where, plays no part for the input. -/
theorem argumentsSettle (args : List String) :
    (∀ arg, FirstCrowded args arg → Invocation.ofArgs args = .error (.unexpectedArgument arg)) ∧
      ((∀ arg ∈ args, Plays arg .flag) → Invocation.ofArgs args = .error .missingInput) ∧
      ((∀ arg, ¬ FirstCrowded args arg) → (∃ arg ∈ args, ¬ Plays arg .flag) →
        ∃ input, Chosen args input ∧ Invocation.ofArgs args = .ok ⟨input, .ofArgs args⟩) ∧
      ∀ others, Invocation.inputs others = Invocation.inputs args →
        (Invocation.ofArgs others).map Invocation.input =
          (Invocation.ofArgs args).map Invocation.input := by
  have settled := argsSettled args
  refine ⟨?_, ?_, ?_, ?_⟩
  · intro arg first
    rw [Invocation.ofArgsExact]
    generalize Invocation.inputFrom none args = result at settled
    cases settled with
    | crowded other => rw [firstUnique first other]; rfl
    | missing flags =>
      obtain ⟨before, after, rfl, ⟨path, _⟩, _⟩ := first
      exact Role.noConfusion (playsUnique path (flags arg (by simp)))
    | input roomy => exact absurd roomy (crowdedRoomless first)
  · intro flags
    rw [Invocation.ofArgsExact]
    generalize Invocation.inputFrom none args = result at settled
    cases settled with
    | @crowded arg first =>
      obtain ⟨before, after, rfl, ⟨path, _⟩, _⟩ := first
      exact Role.noConfusion (playsUnique path (flags arg (by simp)))
    | missing => rfl
    | input _ chosen =>
      obtain ⟨other, member, input⟩ := chosenInput chosen
      exact absurd (flags other member) input
  · intro free ⟨arg, member, input⟩
    rw [Invocation.ofArgsExact]
    generalize Invocation.inputFrom none args = result at settled
    cases settled with
    | crowded first => exact absurd first (free _)
    | missing flags => exact absurd (flags arg member) input
    | input roomy chosen => exact ⟨_, chosen, rfl⟩
  · intro others same
    rw [Invocation.inputOfArgs, Invocation.inputOfArgs, ← Invocation.inputFromInputs none others, same,
      Invocation.inputFromInputs]

theorem emptyPathRefused :
    let free := ["a", "--spans", "--expr=x"]
    let full := free ++ ["", "b"]
    let bare := ["-", "--expr"]
    let moved := ["-q", "a", "--expr=x", "-q"]
    FirstCrowded full "" ∧ Invocation.ofArgs full = .error (.unexpectedArgument "") ∧
      (∀ arg ∈ bare, Plays arg .flag) ∧ Invocation.ofArgs bare = .error .missingInput ∧
      (∀ arg, ¬ FirstCrowded free arg) ∧
      (∃ input, Chosen free input ∧ Invocation.ofArgs free = .ok ⟨input, .ofArgs free⟩) ∧
      Invocation.inputs moved = Invocation.inputs free ∧
      (Invocation.ofArgs moved).map Invocation.input =
        (Invocation.ofArgs free).map Invocation.input := by
  intro free full bare moved
  have path : ¬ Plays "a" .flag := fun flag => absurd (rolesExact.mpr flag) (by decide)
  have spans : Plays "--spans" .flag := rolesExact.mp (by decide)
  have first : Roomy ([] ++ ["a"]) := roomySnoc roomyNil (by simp [Crowded])
  have second : Roomy (["a"] ++ ["--spans"]) := roomySnoc first (freeOf spans (by simp))
  have roomy : Roomy (["a", "--spans"] ++ ["--expr=x"]) :=
    roomySnoc second (freeOf (.inline "x") (by simp))
  have crowded : FirstCrowded full "" :=
    ⟨free, ["b"], rfl, ⟨rolesExact.mp (by decide), "a", by simp [free], path⟩, roomy⟩
  have flags : ∀ arg ∈ bare, Plays arg .flag := by
    simp only [bare, List.forall_mem_cons]
    exact ⟨rolesExact.mp (by decide), rolesExact.mp (by decide), List.forall_mem_nil _⟩
  have unrefused : ∀ arg, ¬ FirstCrowded free arg := fun arg first => crowdedRoomless first roomy
  have same : Invocation.inputs moved = Invocation.inputs free := by decide
  exact ⟨crowded, (argumentsSettle full).1 "" crowded, flags, (argumentsSettle bare).2.1 flags,
    unrefused, (argumentsSettle free).2.2.1 unrefused ⟨"a", by simp [free], path⟩, same,
    (argumentsSettle free).2.2.2 moved same⟩

end ModalLexer
