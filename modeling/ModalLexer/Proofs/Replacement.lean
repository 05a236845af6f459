import ModalLexer.Proofs.Roles

/-! Paths and texts given together. A path behind a text is refused; a path in front of one is taken,
and then the text takes its place and nothing is said of the path. -/
namespace ModalLexer

def Replaced (path text : String) (args : List String) : Prop :=
  Plays path .positional ∧ Chosen args (.inline text) ∧ ∃ before after,
    args = before ++ path :: after ∧ (∀ arg ∈ before, Plays arg .flag) ∧
      ∀ arg ∈ after, ¬ Plays arg .positional

variable {args more : List String} {arg path text : String} {input other : Input}

theorem positionalUnflagged (plays : Plays arg .positional) : ¬ Plays arg .flag :=
  fun flag => Role.noConfusion (playsUnique plays flag)

theorem inlineUnflagged (text : String) : ¬ Plays ("--expr=" ++ text) .flag :=
  fun flag => Role.noConfusion (playsUnique (.inline text) flag)

theorem chosenText {last : String} (one : Chosen args (.inline text))
    (two : Chosen args (.inline last)) : last = text := by
  have texts {one two : String} (same : "--expr=" ++ one = "--expr=" ++ two) : one = two :=
    Role.inline.inj (playsUnique (same ▸ .inline one) (.inline two))
  obtain ⟨split, final⟩ := one
  obtain ⟨whole, ends⟩ := two
  rcases List.append_eq_append_iff.mp (split.symm.trans whole) with
    ⟨gap, _, same⟩ | ⟨gap, _, same⟩
  · cases gap with
    | nil => exact (texts (List.cons.inj same).1).symm
    | cons head gap =>
      obtain ⟨rfl, further⟩ := List.cons.inj same
      exact absurd (.inline last) (final _ (by simp [further]) last)
  · cases gap with
    | nil => exact texts (List.cons.inj same).1
    | cons head gap =>
      obtain ⟨rfl, further⟩ := List.cons.inj same
      exact absurd (.inline text) (ends _ (by simp [further]) text)

theorem chosenAlone (chosen : Chosen args (.file path)) (member : arg ∈ args)
    (unflagged : ¬ Plays arg .flag) : arg = path := by
  cases chosen with
  | @file before path after split plays alone =>
    rw [split, List.mem_append, List.mem_cons] at member
    obtain front | same | back := member
    · exact absurd (alone arg (List.mem_append_left after front)) unflagged
    · exact same
    · exact absurd (alone arg (List.mem_append_right before back)) unflagged

theorem chosenTextless (chosen : Chosen args (.file path)) (text : String) :
    "--expr=" ++ text ∉ args := by
  intro member
  have same := chosenAlone chosen member (inlineUnflagged text)
  cases chosen with
  | file _ plays => exact Role.noConfusion (playsUnique (.inline text) (same ▸ plays))

theorem textMember (chosen : Chosen args (.inline text)) : "--expr=" ++ text ∈ args := by
  cases chosen with
  | inline split => simp [split]

theorem roomyAppend (roomy : Roomy args) (free : ∀ arg ∈ more, ¬ Plays arg .positional) :
    Roomy (args ++ more) := by
  induction more generalizing args with
  | nil => rwa [List.append_nil]
  | cons arg more ih =>
    obtain ⟨here, later⟩ := List.forall_mem_cons.mp free
    rw [List.append_cons]
    exact ih (roomySnoc roomy fun crowded => here crowded.1) later

theorem roomyFlags (flags : ∀ arg ∈ args, Plays arg .flag) : Roomy args :=
  roomyAppend roomyNil fun arg member plays => positionalUnflagged plays (flags arg member)

theorem replacedRoomy (replaced : Replaced path text args) : Roomy args := by
  obtain ⟨_, _, before, after, rfl, flags, free⟩ := replaced
  have first : ¬ Crowded before path := by
    rintro ⟨_, arg, member, unflagged⟩
    exact unflagged (flags arg member)
  rw [List.append_cons]
  exact roomyAppend (roomySnoc (roomyFlags flags) first) free

theorem roomyReplaced (roomy : Roomy args) (chosen : Chosen args (.inline text))
    (plays : Plays path .positional) (member : path ∈ args) : Replaced path text args := by
  obtain ⟨before, after, rfl⟩ := List.append_of_mem member
  refine ⟨plays, chosen, before, after, rfl, ?_, ?_⟩
  · intro arg front
    by_contra unflagged
    exact roomy before path after rfl ⟨plays, arg, front, unflagged⟩
  · intro arg back other
    obtain ⟨middle, rest, rfl⟩ := List.append_of_mem back
    have full : Crowded (before ++ path :: middle) arg :=
      ⟨other, path, by simp, positionalUnflagged plays⟩
    exact roomy (before ++ path :: middle) arg rest (by simp) full

theorem parsedChosen {options : Options} (parsed : Invocation.ofArgs args = .ok ⟨input, options⟩) :
    Roomy args ∧ Chosen args input := by
  have settled := argsSettled args
  have found := congrArg (Except.map Invocation.input) parsed
  rw [Invocation.inputOfArgs] at found
  rw [found] at settled
  cases settled with
  | input roomy chosen => exact ⟨roomy, chosen⟩

theorem replacedRead (replaced : Replaced path text args) :
    Invocation.ofArgs args = .ok ⟨.inline text, .ofArgs args⟩ := by
  have roomy := replacedRoomy replaced
  obtain ⟨_, chosen, _⟩ := replaced
  have settled := argsSettled args
  rw [Invocation.ofArgsExact]
  generalize Invocation.inputFrom none args = result at settled
  cases settled with
  | crowded first => exact absurd roomy (crowdedRoomless first)
  | missing flags =>
    obtain ⟨arg, member, unflagged⟩ := chosenInput chosen
    exact absurd (flags arg member) unflagged
  | @input input _ found =>
    cases input with
    | inline last =>
      rw [chosenText chosen found]
      rfl
    | file name => exact absurd (textMember chosen) (chosenTextless found text)

theorem crowdedRefused (first : FirstCrowded args arg) :
    Invocation.ofArgs args = .error (.unexpectedArgument arg) := by
  have settled := argsSettled args
  rw [Invocation.ofArgsExact]
  generalize Invocation.inputFrom none args = result at settled
  cases settled with
  | crowded other =>
    rw [firstUnique first other]
    rfl
  | missing flags =>
    obtain ⟨before, after, rfl, ⟨plays, _⟩, _⟩ := first
    exact absurd (flags arg (by simp)) (positionalUnflagged plays)
  | input roomy => exact absurd roomy (crowdedRoomless first)

section

variable {before between after : List String}

theorem pathFirst (plays : Plays path .positional) (text : String)
    (flags : ∀ arg ∈ before ++ between ++ after, Plays arg .flag) :
    Replaced path text (before ++ path :: (between ++ ("--expr=" ++ text) :: after)) := by
  obtain ⟨inner, last⟩ := List.forall_mem_append.mp flags
  obtain ⟨first, second⟩ := List.forall_mem_append.mp inner
  have split : before ++ path :: (between ++ ("--expr=" ++ text) :: after) =
      before ++ path :: between ++ ("--expr=" ++ text) :: after := by simp
  refine ⟨plays, .inline split ?_, before, _, rfl, first, ?_⟩
  · intro arg member other inline
    exact Role.noConfusion (playsUnique inline (last arg member))
  · rw [List.forall_mem_append, List.forall_mem_cons]
    refine ⟨fun arg member other => ?_, fun other => ?_, fun arg member other => ?_⟩
    · exact positionalUnflagged other (second arg member)
    · exact Role.noConfusion (playsUnique (.inline text) other)
    · exact positionalUnflagged other (last arg member)

theorem textFirst (plays : Plays path .positional) (text : String)
    (flags : ∀ arg ∈ before ++ between, Plays arg .flag) :
    FirstCrowded (before ++ ("--expr=" ++ text) :: (between ++ path :: after)) path := by
  obtain ⟨first, second⟩ := List.forall_mem_append.mp flags
  have full : Crowded (before ++ ("--expr=" ++ text) :: between) path :=
    ⟨plays, "--expr=" ++ text, by simp, inlineUnflagged text⟩
  refine ⟨before ++ ("--expr=" ++ text) :: between, after, by simp, full, ?_⟩
  refine roomyAppend (roomyFlags first) (List.forall_mem_cons.mpr ⟨?_, ?_⟩)
  · exact fun other => Role.noConfusion (playsUnique (.inline text) other)
  · exact fun arg member other => positionalUnflagged other (second arg member)

end

/-- A path that is read is the only input. A path and a text together are accepted where the path is
the first of all inputs and the only path; then the text is read, and the path is not. So of a path
and a text among flags the order decides: with the path behind, they are refused. -/
theorem textReplacesPath (args : List String) :
    (∀ path options, Invocation.ofArgs args = .ok ⟨.file path, options⟩ →
        ∀ arg ∈ args, ¬ Plays arg .flag → arg = path) ∧
      (∀ text options, Invocation.ofArgs args = .ok ⟨.inline text, options⟩ →
        ∀ path ∈ args, Plays path .positional → Replaced path text args) ∧
      (∀ path ∈ args, Plays path .positional → ∀ text, "--expr=" ++ text ∈ args →
        ((∃ invocation, Invocation.ofArgs args = .ok invocation) ↔
          ∃ last, Replaced path last args)) ∧
      ∀ path text before between after, Plays path .positional →
        (∀ arg ∈ before ++ between ++ after, Plays arg .flag) →
        (Invocation.ofArgs (before ++ path :: (between ++ ("--expr=" ++ text) :: after))).map
            Invocation.input = .ok (.inline text) ∧
          Invocation.ofArgs (before ++ ("--expr=" ++ text) :: (between ++ path :: after)) =
            .error (.unexpectedArgument path) := by
  refine ⟨?_, ?_, ?_, ?_⟩
  · intro path options parsed arg member unflagged
    exact chosenAlone (parsedChosen parsed).2 member unflagged
  · intro text options parsed path member plays
    obtain ⟨roomy, chosen⟩ := parsedChosen parsed
    exact roomyReplaced roomy chosen plays member
  · intro path member plays text given
    constructor
    · rintro ⟨⟨input, options⟩, parsed⟩
      obtain ⟨roomy, chosen⟩ := parsedChosen parsed
      cases input with
      | inline last => exact ⟨last, roomyReplaced roomy chosen plays member⟩
      | file name => exact absurd given (chosenTextless chosen text)
    · rintro ⟨last, replaced⟩
      exact ⟨_, replacedRead replaced⟩
  · intro path text before between after plays flags
    refine ⟨?_, crowdedRefused (textFirst plays text (List.forall_mem_append.mp flags).1)⟩
    rw [replacedRead (pathFirst plays text flags)]
    rfl

theorem laterTextRead :
    let args := ["-q", "a.quill", "--spans", "--expr=x", "--expr=y"]
    Plays "a.quill" .positional ∧ Invocation.ofArgs args = .ok ⟨.inline "y", .ofArgs args⟩ ∧
      Replaced "a.quill" "y" args ∧
      ((∃ invocation, Invocation.ofArgs args = .ok invocation) ↔
        ∃ last, Replaced "a.quill" last args) ∧
      Invocation.ofArgs ["a.quill", "-q"] = .ok ⟨.file "a.quill", default⟩ ∧
      (∀ arg ∈ ["a.quill", "-q"], ¬ Plays arg .flag → arg = "a.quill") ∧
      (∀ arg ∈ ["-q"] ++ ["--spans"] ++ ([] : List String), Plays arg .flag) ∧
      (Invocation.ofArgs ["-q", "a.quill", "--spans", "--expr=x"]).map Invocation.input =
        .ok (.inline "x") ∧
      Invocation.ofArgs ["-q", "--expr=x", "--spans", "a.quill"] =
        .error (.unexpectedArgument "a.quill") := by
  intro args
  have path : Plays "a.quill" .positional := rolesExact.mp (by decide)
  have parsed : Invocation.ofArgs args = .ok ⟨.inline "y", .ofArgs args⟩ := by decide
  have alone : Invocation.ofArgs ["a.quill", "-q"] = .ok ⟨.file "a.quill", default⟩ := by decide
  have flags : ∀ arg ∈ ["-q"] ++ ["--spans"] ++ ([] : List String), Plays arg .flag := by
    simp only [List.append_nil, List.cons_append, List.nil_append, List.forall_mem_cons]
    exact ⟨rolesExact.mp (by decide), rolesExact.mp (by decide), List.forall_mem_nil _⟩
  obtain ⟨_, replaced, together, order⟩ := textReplacesPath args
  obtain ⟨front, behind⟩ := order "a.quill" "x" ["-q"] ["--spans"] [] path flags
  exact ⟨path, parsed, replaced "y" _ parsed "a.quill" (by simp [args]) path,
    together "a.quill" (by simp [args]) path "x" (by simp [args]), alone,
    (textReplacesPath _).1 _ _ alone, flags, front, behind⟩

theorem earlyPathDropped :
    ¬ (∀ args input options, Invocation.ofArgs args = .ok ⟨input, options⟩ →
        ∀ arg ∈ args, Plays arg .positional → input = .file arg) ∧
      Invocation.ofArgs ["a.quill", "--expr=x"] = .ok ⟨.inline "x", default⟩ ∧
      Invocation.ofArgs ["--expr=x", "a.quill"] = .error (.unexpectedArgument "a.quill") := by
  have parsed : Invocation.ofArgs ["a.quill", "--expr=x"] = .ok ⟨.inline "x", default⟩ := by decide
  refine ⟨fun kept => ?_, parsed, by decide⟩
  have file := kept _ _ _ parsed "a.quill" (by simp) (rolesExact.mp (by decide))
  contradiction

end ModalLexer
