import ModalLexer.Proofs.JsonScalars

/-! The reader is exact: it reads the documents of the grammar, each as the one value it names. -/
namespace ModalLexer.Text.Json

variable {text rest : List Char}

def Sound {α : Type} (read : Reader α) (derived : α → List Char → Prop) : Prop :=
  ∀ text a rest, read text = some (a, rest) → ∃ front, derived a front ∧ text = front ++ rest

theorem skipParts (text : List Char) : ∃ gap, Spaces gap ∧ text = gap ++ skip text :=
  ⟨text.takeWhile isSpace, List.all_eq_true.mp List.all_takeWhile,
    List.takeWhile_append_dropWhile.symm⟩

theorem skipExact {gap : List Char} (spaces : Spaces gap)
    (follow : ∀ c ∈ rest.head?, isSpace c = false) : skip (gap ++ rest) = rest :=
  dropWhileExact spaces follow

section Sequences

variable {α : Type} {item? : Reader α} {close : Char} {one : α → List Char → Prop}
  (all : List α → List Char → Prop)

theorem sequenceSound (sound : Sound item? one) (last : ∀ {a front}, one a front → all [a] front)
    (more : ∀ {a front list others}, one a front → all list others →
      all (a :: list) (front ++ ',' :: others))
    {bound : Nat} {list : List α} (read : sequence? item? close bound text = some (list, rest)) :
    ∃ front, all list front ∧ text = front ++ close :: rest := by
  induction bound generalizing text list with
  | zero => cases read
  | succ bound ih =>
    simp only [sequence?, bind, Option.bind_eq_some_iff] at read
    obtain ⟨⟨a, behind⟩, first, read⟩ := read
    obtain ⟨front, derived, rfl⟩ := sound _ _ _ first
    dsimp only at read
    split at read
    · contradiction
    · next c after =>
      split at read
      · next ends =>
        subst ends
        cases read
        exact ⟨front, last derived, rfl⟩
      · split at read
        · next comma =>
          subst comma
          obtain ⟨⟨others, final⟩, later, pair⟩ := Option.map_eq_some_iff.mp read
          cases pair
          obtain ⟨back, derivedAll, rfl⟩ := ih later
          exact ⟨front ++ ',' :: back, more derived derivedAll, by simp⟩
        · contradiction

theorem sequenceLast {a : α} {front : List Char} {bound : Nat} (enough : front.length < bound)
    (first : item? (front ++ close :: rest) = some (a, close :: rest)) :
    sequence? item? close bound (front ++ close :: rest) = some ([a], rest) := by
  cases bound with
  | zero => contradiction
  | succ bound => simp only [sequence?, first, bind, Option.bind, if_true]

theorem sequenceMore {a : α} {list : List α} {front others : List Char} {bound : Nat}
    (apart : close ≠ ',') (first : item? (front ++ ',' :: others) = some (a, ',' :: others))
    (later : sequence? item? close bound others = some (list, rest)) :
    sequence? item? close (bound + 1) (front ++ ',' :: others) = some (a :: list, rest) := by
  simp only [sequence?, first, later, bind, Option.bind, if_neg apart.symm, if_true, Option.map_some]

theorem bracketedSound (sound : Sound item? one) (last : ∀ {a front}, one a front → all [a] front)
    (more : ∀ {a front list others}, one a front → all list others →
      all (a :: list) (front ++ ',' :: others))
    {list : List α} (read : bracketed? item? close text = some (list, rest)) :
    ∃ front, (all list front ∨ list = [] ∧ Spaces front) ∧ text = front ++ close :: rest := by
  unfold bracketed? at read
  split at read
  · next empty =>
    cases read
    obtain ⟨after, same⟩ := List.head?_eq_some_iff.mp empty
    obtain ⟨gap, spaces, parts⟩ := skipParts text
    refine ⟨gap, .inr ⟨rfl, spaces⟩, ?_⟩
    rw [same] at parts ⊢
    exact parts
  · obtain ⟨front, derived, parts⟩ := sequenceSound all sound last more read
    exact ⟨front, .inl derived, parts⟩

theorem bracketedEmpty {gap : List Char} (spaces : Spaces gap) (solid : isSpace close = false) :
    bracketed? item? close (gap ++ close :: rest) = some ([], rest) := by
  have front : skip (gap ++ close :: rest) = close :: rest :=
    skipExact spaces (by rintro c ⟨⟩; exact solid)
  rw [bracketed?, front]
  exact if_pos rfl

end Sequences

section Values

variable {value? : Reader Value}

theorem elementSound (sound : Sound value? fun v text => Derives (.value v) text) :
    Sound (element? value?) fun v text => Derives (.element v) text := by
  intro text v rest read
  simp only [element?, bind, Option.bind_eq_some_iff] at read
  obtain ⟨⟨w, behind⟩, found, pair⟩ := read
  cases pair
  obtain ⟨before, spaces, parts⟩ := skipParts text
  obtain ⟨front, derived, middle⟩ := sound _ _ _ found
  obtain ⟨after, gap, tail⟩ := skipParts behind
  refine ⟨_, .element spaces derived gap, ?_⟩
  rw [middle, tail] at parts
  simpa using parts

theorem memberSound (sound : Sound value? fun v text => Derives (.value v) text) :
    Sound (member? value?) fun m text => Derives (.member m.1 m.2) text := by
  intro text m rest read
  simp only [member?, bind, Option.bind_eq_some_iff] at read
  obtain ⟨⟨name, behind⟩, found, read⟩ := read
  obtain ⟨before, spaces, parts⟩ := skipParts text
  obtain ⟨spelled, quotation, middle⟩ := stringSound found
  obtain ⟨after, gap, tail⟩ := skipParts behind
  dsimp only at read
  split at read
  · next colon same =>
    obtain ⟨⟨v, final⟩, inside, pair⟩ := Option.map_eq_some_iff.mp read
    cases pair
    obtain ⟨front, derived, back⟩ := elementSound sound _ _ _ inside
    refine ⟨_, .member spaces quotation gap derived, ?_⟩
    rw [middle, tail, same, back] at parts
    simpa using parts
  · contradiction

theorem arraySound (sound : Sound value? fun v text => Derives (.value v) text)
    {items : List Value} (read : bracketed? (element? value?) ']' text = some (items, rest)) :
    ∃ front, Derives (.value (.array items)) front ∧ '[' :: text = front ++ rest := by
  have found : ∃ front, (Derives (.elements items) front ∨ items = [] ∧ Spaces front) ∧
      text = front ++ ']' :: rest :=
    bracketedSound (fun items text => Derives (.elements items) text) (elementSound sound)
      .lastElement .moreElements read
  obtain ⟨front, inside | ⟨rfl, gap⟩, rfl⟩ := found
  · exact ⟨_, .array inside, by simp⟩
  · exact ⟨_, .emptyArray gap, by simp⟩

theorem objectSound (sound : Sound value? fun v text => Derives (.value v) text)
    {list : List (String × Value)}
    (read : bracketed? (member? value?) '\x7d' text = some (list, rest)) :
    ∃ front, Derives (.value (.object list)) front ∧ '\x7b' :: text = front ++ rest := by
  have found : ∃ front, (Derives (.members list) front ∨ list = [] ∧ Spaces front) ∧
      text = front ++ '\x7d' :: rest :=
    bracketedSound (fun list text => Derives (.members list) text) (memberSound sound)
      .lastMember .moreMembers read
  obtain ⟨front, inside | ⟨rfl, gap⟩, rfl⟩ := found
  · exact ⟨_, .object inside, by simp⟩
  · exact ⟨_, .emptyObject gap, by simp⟩

end Values

theorem keywordSound {word : List Char} {v w : Value} (read : keyword? word v text = some (w, rest)) :
    w = v ∧ text = word ++ rest := by
  unfold keyword? at read
  split at read
  · next same =>
    cases read
    have parts := List.take_append_drop word.length text
    rw [same] at parts
    exact ⟨rfl, parts.symm⟩
  · contradiction

theorem valueSound (depth : Nat) : Sound (value? depth) fun v text => Derives (.value v) text := by
  induction depth with
  | zero => intro text v rest read; cases read
  | succ depth ih =>
    intro text v rest read
    unfold value? at read
    split at read
    · contradiction
    · next c after =>
      split at read
      · obtain ⟨⟨inside, last⟩, found, pair⟩ := Option.map_eq_some_iff.mp read
        cases pair
        obtain ⟨front, quotation, parts⟩ := stringSound found
        exact ⟨front, .string quotation, parts⟩
      split at read
      · next bracket =>
        obtain ⟨⟨items, last⟩, found, pair⟩ := Option.map_eq_some_iff.mp read
        cases pair
        exact bracket ▸ arraySound ih found
      split at read
      · next brace =>
        obtain ⟨⟨list, last⟩, found, pair⟩ := Option.map_eq_some_iff.mp read
        cases pair
        exact brace ▸ objectSound ih found
      split at read
      · obtain ⟨rfl, parts⟩ := keywordSound read
        exact ⟨_, .null, parts⟩
      split at read
      · obtain ⟨rfl, parts⟩ := keywordSound read
        exact ⟨_, .bool true, parts⟩
      split at read
      · obtain ⟨rfl, parts⟩ := keywordSound read
        exact ⟨_, .bool false, parts⟩
      · obtain ⟨⟨n, last⟩, found, pair⟩ := Option.map_eq_some_iff.mp read
        cases pair
        obtain ⟨proper, parts⟩ := numeralSound found
        exact ⟨_, .number proper, parts⟩

theorem numeralStart {n : Numeral} (proper : n.Proper) (rest : List Char) :
    ∃ c more, n.text ++ rest = c :: more ∧ (c.isDigit = true ∨ c = '-') := by
  rcases proper.sign with bare | ⟨c, member, signed⟩
  · obtain ⟨c, more, split, digit⟩ := digitsStart proper.whole
      (Numeral.fractionText n.fraction ++ (Numeral.powerText n.power ++ rest))
    exact ⟨c, more, by simpa [Numeral.text, bare] using split, .inl digit⟩
  · rw [List.mem_singleton.mp member] at signed
    exact ⟨'-', _, by rw [Numeral.text, signed]; rfl, .inr rfl⟩

def Opens (c : Char) : Prop := isSpace c = false ∧ c ∉ [']', '\x7d']

instance : DecidablePred Opens := fun _ => instDecidableAnd

theorem digitOpens {c : Char} (digit : c.isDigit = true) : Opens c := by
  have solid : ¬ Closed [c] := by
    intro closed
    have undigited := (closedUnnumbered closed c rfl).1
    rw [digit] at undigited
    contradiction
  constructor
  · exact Bool.eq_false_iff.mpr fun space => solid (by rintro d ⟨⟩; exact .inl space)
  · exact fun mark => solid (by rintro d ⟨⟩; exact .inr (List.mem_cons_of_mem _ mark))

theorem valueStart {v : Value} (derived : Derives (.value v) text) :
    ∃ c more, text = c :: more ∧ Opens c := by
  cases derived with
  | bool b => cases b <;> exact ⟨_, _, rfl, by decide⟩
  | number proper =>
    obtain ⟨c, more, split, digit | rfl⟩ := numeralStart proper []
    · rw [List.append_nil] at split
      exact ⟨c, more, split, digitOpens digit⟩
    · rw [List.append_nil] at split
      exact ⟨'-', more, split, by decide⟩
  | string quotation =>
    obtain ⟨spellings⟩ := quotation
    exact ⟨_, _, rfl, by decide⟩
  | _ => exact ⟨_, _, rfl, by decide⟩

def Starts (text : List Char) : Prop :=
  ∃ gap c more, Spaces gap ∧ Opens c ∧ text = gap ++ c :: more

theorem startsAppend (starts : Starts text) (rest : List Char) : Starts (text ++ rest) := by
  obtain ⟨gap, c, more, spaces, opens, rfl⟩ := starts
  exact ⟨gap, c, more ++ rest, spaces, opens, by simp⟩

theorem startsSkip (starts : Starts text) {close : Char} (mark : close ∈ [']', '\x7d'])
    (rest : List Char) : (skip (text ++ rest)).head? ≠ some close := by
  obtain ⟨gap, c, more, spaces, opens, rfl⟩ := starts
  have front : skip (gap ++ c :: (more ++ rest)) = c :: (more ++ rest) :=
    skipExact spaces (by rintro d ⟨⟩; exact opens.1)
  rw [List.append_assoc, List.cons_append, front]
  rintro ⟨⟩
  exact opens.2 mark

theorem elementStarts {v : Value} (derived : Derives (.element v) text) : Starts text := by
  cases derived with
  | element front inside =>
    obtain ⟨c, more, rfl, opens⟩ := valueStart inside
    exact ⟨_, c, _, front, opens, rfl⟩

theorem memberStarts {name : String} {v : Value} (derived : Derives (.member name v) text) :
    Starts text := by
  cases derived with
  | member front quotation =>
    obtain ⟨spellings⟩ := quotation
    exact ⟨_, '"', _, front, by decide, rfl⟩

theorem elementsStart {items : List Value} (derived : Derives (.elements items) text) :
    Starts text := by
  cases derived with
  | lastElement item => exact elementStarts item
  | moreElements item => exact startsAppend (elementStarts item) _

theorem membersStart {list : List (String × Value)} (derived : Derives (.members list) text) :
    Starts text := by
  cases derived with
  | lastMember item => exact memberStarts item
  | moreMembers item => exact startsAppend (memberStarts item) _

def Ended (follow : List Char) : Prop := ∀ c ∈ follow.head?, c ∈ [',', ']', '\x7d']

theorem endedSolid (ended : Ended rest) : ∀ c ∈ rest.head?, isSpace c = false := by
  intro c head
  have mark := ended c head
  simp only [List.mem_cons, List.not_mem_nil, or_false] at mark
  rcases mark with rfl | rfl | rfl <;> decide

theorem spacesClosed {gap : List Char} (spaces : Spaces gap) (ended : Ended rest) :
    Closed (gap ++ rest) := by
  cases gap with
  | nil => exact fun c head => .inr (ended c head)
  | cons c more => rintro d ⟨⟩; exact .inl (spaces c List.mem_cons_self)

def Taken (depth : Nat) : Node → List Char → Prop
  | .value v, text => ∀ rest, Closed rest → value? depth (text ++ rest) = some (v, rest)
  | .element v, text =>
    ∀ rest, Ended rest → element? (value? depth) (text ++ rest) = some (v, rest)
  | .member name v, text =>
    ∀ rest, Ended rest → member? (value? depth) (text ++ rest) = some ((name, v), rest)
  | .elements items, text => ∀ bound rest, text.length < bound →
    sequence? (element? (value? depth)) ']' bound (text ++ ']' :: rest) = some (items, rest)
  | .members list, text => ∀ bound rest, text.length < bound →
    sequence? (member? (value? depth)) '\x7d' bound (text ++ '\x7d' :: rest) = some (list, rest)

theorem bracketedFilled {α : Type} {item? : Reader α} {close : Char} {list : List α}
    (starts : Starts text) (mark : close ∈ [']', '\x7d'])
    (taken : ∀ bound rest, text.length < bound →
      sequence? item? close bound (text ++ close :: rest) = some (list, rest)) :
    bracketed? item? close (text ++ close :: rest) = some (list, rest) := by
  rw [bracketed?, if_neg (startsSkip starts mark _)]
  exact taken _ _ (by rw [List.length_append, List.length_cons]; omega)

theorem numberPlain {c : Char} (start : c.isDigit = true ∨ c = '-') :
    c ∉ ['"', '[', '\x7b', 'n', 't', 'f'] := by
  intro member
  rcases start with digit | rfl
  · have undigited : ['"', '[', '\x7b', 'n', 't', 'f'].all (!·.isDigit) = true := by decide
    have letter := List.all_eq_true.mp undigited c member
    rw [digit] at letter
    contradiction
  · exact absurd member (by decide)

theorem skipTo {gap more : List Char} {c : Char} (spaces : Spaces gap) (solid : isSpace c = false) :
    skip (gap ++ c :: more) = c :: more :=
  skipExact spaces (by rintro d ⟨⟩; exact solid)

theorem elementComplete {value? : Reader Value} {v : Value} {before after : List Char}
    (front : Spaces before) (starts : ∃ c more, text = c :: more ∧ Opens c) (back : Spaces after)
    (ended : Ended rest) (taken : value? (text ++ (after ++ rest)) = some (v, after ++ rest)) :
    element? value? (before ++ (text ++ after) ++ rest) = some (v, rest) := by
  obtain ⟨c, more, rfl, opens⟩ := starts
  rw [List.cons_append] at taken
  simp only [element?, List.append_assoc, List.cons_append, skipTo front opens.1, taken,
    skipExact back (endedSolid ended), bind, Option.bind]

theorem memberComplete {value? : Reader Value} {name : String} {v : Value}
    {before spelled after : List Char} (front : Spaces before) (quotation : Quotation name spelled)
    (back : Spaces after) (taken : element? value? (text ++ rest) = some (v, rest)) :
    member? value? (before ++ (spelled ++ (after ++ ':' :: text)) ++ rest) =
      some ((name, v), rest) := by
  have named := stringComplete quotation (after ++ ':' :: (text ++ rest))
  obtain ⟨spellings⟩ := quotation
  simp only [List.append_assoc, List.cons_append, List.nil_append] at named
  have quote : isSpace '"' = false := by decide
  have colon : isSpace ':' = false := by decide
  simp only [member?, List.append_assoc, List.cons_append, List.nil_append, skipTo front quote,
    named, skipTo back colon, taken, Option.map_some, bind, Option.bind]

theorem valueArray (depth : Nat) (text : List Char) : value? (depth + 1) ('[' :: text) =
    (bracketed? (element? (value? depth)) ']' text).map fun (items, rest) => (.array items, rest) :=
  rfl

theorem valueObject (depth : Nat) (text : List Char) : value? (depth + 1) ('\x7b' :: text) =
    (bracketed? (member? (value? depth)) '\x7d' text).map fun (list, rest) => (.object list, rest) :=
  rfl

/- By induction on the derivation. Each bracket leaves less text than there is depth. -/
theorem derivedTaken {node : Node} (derived : Derives node text) :
    ∀ depth, text.length ≤ depth → Taken (depth + 1) node text := by
  induction derived with
  | null => exact fun depth _ rest _ => rfl
  | bool b => cases b <;> exact fun depth _ rest _ => rfl
  | number proper =>
    intro depth _ rest closed
    have taken := numeralComplete proper closed
    obtain ⟨c, more, split, start⟩ := numeralStart proper rest
    have plain := numberPlain start
    simp only [List.mem_cons, List.not_mem_nil, or_false, not_or] at plain
    rw [split] at taken ⊢
    simp only [value?, plain, if_false, taken, Option.map_some]
  | string quotation =>
    intro depth _ rest _
    have taken := stringComplete quotation rest
    obtain ⟨spellings⟩ := quotation
    rw [List.cons_append] at taken ⊢
    simp only [value?, if_true, taken, Option.map_some]
  | emptyArray spaces =>
    intro depth _ rest _
    rw [List.cons_append, List.append_assoc, valueArray]
    exact congrArg (Option.map _) (bracketedEmpty spaces (by decide))
  | array inside ih =>
    intro depth within rest _
    rw [List.length_cons, List.length_append] at within
    cases depth with
    | zero => contradiction
    | succ depth =>
      rw [List.cons_append, List.append_assoc, valueArray]
      exact congrArg (Option.map _)
        (bracketedFilled (elementsStart inside) (by decide) (ih depth (by omega)))
  | emptyObject spaces =>
    intro depth _ rest _
    rw [List.cons_append, List.append_assoc, valueObject]
    exact congrArg (Option.map _) (bracketedEmpty spaces (by decide))
  | object inside ih =>
    intro depth within rest _
    rw [List.length_cons, List.length_append] at within
    cases depth with
    | zero => contradiction
    | succ depth =>
      rw [List.cons_append, List.append_assoc, valueObject]
      exact congrArg (Option.map _)
        (bracketedFilled (membersStart inside) (by decide) (ih depth (by omega)))
  | element front inside back ih =>
    intro depth within rest ended
    simp only [List.length_append] at within
    exact elementComplete front (valueStart inside) back ended
      (ih depth (by omega) _ (spacesClosed back ended))
  | member front quotation back inside ih =>
    intro depth within rest ended
    simp only [List.length_append, List.length_cons] at within
    exact memberComplete front quotation back (ih depth (by omega) rest ended)
  | lastElement item ih =>
    intro depth within bound rest enough
    exact sequenceLast enough (ih depth within _ (by rintro c ⟨⟩; decide))
  | @moreElements v text items more item later first others =>
    intro depth within bound rest enough
    cases bound with
    | zero => contradiction
    | succ bound =>
      simp only [List.length_append, List.length_cons] at within enough
      rw [List.append_assoc]
      exact sequenceMore (by decide) (first depth (by omega) _ (by rintro c ⟨⟩; decide))
        (others depth (by omega) bound rest (by omega))
  | lastMember item ih =>
    intro depth within bound rest enough
    exact sequenceLast enough (ih depth within _ (by rintro c ⟨⟩; decide))
  | @moreMembers name v text list more item later first others =>
    intro depth within bound rest enough
    cases bound with
    | zero => contradiction
    | succ bound =>
      simp only [List.length_append, List.length_cons] at within enough
      rw [List.append_assoc]
      exact sequenceMore (by decide) (first depth (by omega) _ (by rintro c ⟨⟩; decide))
        (others depth (by omega) bound rest (by omega))

theorem documentExact (text : List Char) (v : Value) : document? text = some v ↔ Document text v := by
  constructor
  · intro read
    unfold document? at read
    split at read
    · next w found =>
      cases read
      obtain ⟨front, derived, rfl⟩ := elementSound (valueSound _) _ _ _ found
      rw [List.append_nil]
      exact derived
    · contradiction
  · intro derived
    have taken := derivedTaken derived text.length (Nat.le_refl _) [] (by simp [Ended])
    rw [List.append_nil] at taken
    rw [document?, taken]

example : document? " [-1.50e2, \"\\ud83d\\ude00\\n\"] ".toList =
    some (.array [.number (-150) 0, .string "😀\n"]) := by rfl

end ModalLexer.Text.Json
