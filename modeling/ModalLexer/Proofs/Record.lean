import Mathlib.Data.List.Forall2
import ModalLexer.Listing
import ModalLexer.Proofs.JsonDocument

/-! Tokens as JSON records. The JSON listing is a document that names one array, of one object for each
token, and the objects give the tokens back. -/
namespace ModalLexer

open Text
open Text.Json

namespace Kind

def value? : Kind → Option Value
  | word text => some (.string text)
  | number value => some (.number value 0)
  | symbol c => some (.string (String.singleton c))
  | eof => none

def ofFields? (name value : Option Value) : Option Kind :=
  match name, value with
  | some (.string name), some (.string text) =>
    if name = "word" then some (.word text)
    else if name = "symbol" then
      match text.toList with
      | [c] => some (.symbol c)
      | _ => none
    else none
  | some (.string name), some (.number value 0) =>
    if name = "number" then some (.number value) else none
  | some (.string name), none => if name = "eof" then some .eof else none
  | _, _ => none

theorem fieldsKind (k : Kind) : ofFields? (some (.string k.name)) k.value? = some k := by
  cases k with
  | word text => rfl
  | number value => rfl
  | symbol c => simp [ofFields?, name, value?]
  | eof => rfl

end Kind

namespace Token

def fields (t : Token) : List (String × Value) :=
  [("kind", .string t.kind.name)] ++ (t.kind.value?.map (("value", ·))).toList ++
    [("start", .number t.span.start 0), ("end", .number t.span.stop 0)]

def object (t : Token) : Value := .object t.fields

def ofFields? (list : List (String × Value)) : Option Token := do
  let kind ← Kind.ofFields? (list.lookup "kind") (list.lookup "value")
  match list.lookup "start", list.lookup "end" with
  | some (.number (.ofNat start) 0), some (.number (.ofNat stop) 0) => some ⟨kind, ⟨start, stop⟩⟩
  | _, _ => none

def ofObject? : Value → Option Token
  | .object list => ofFields? list
  | _ => none

def ofArray? : Value → Option (List Token)
  | .array items => items.mapM ofObject?
  | _ => none

theorem kindField (t : Token) : t.fields.lookup "kind" = some (.string t.kind.name) := rfl

theorem valueField (t : Token) : t.fields.lookup "value" = t.kind.value? := by
  obtain ⟨kind, span⟩ := t
  cases kind <;> rfl

theorem startField (t : Token) : t.fields.lookup "start" = some (.number t.span.start 0) := by
  obtain ⟨kind, span⟩ := t
  cases kind <;> rfl

theorem endField (t : Token) : t.fields.lookup "end" = some (.number t.span.stop 0) := by
  obtain ⟨kind, span⟩ := t
  cases kind <;> rfl

theorem fieldsToken (t : Token) : ofFields? t.fields = some t := by
  rw [ofFields?, kindField, valueField, startField, endField, Kind.fieldsKind]
  rfl

theorem arrayTokens (tokens : List Token) : ofArray? (.array (tokens.map object)) = some tokens := by
  induction tokens with
  | nil => rfl
  | cons t rest ih =>
    have first : ofObject? t.object = some t := fieldsToken t
    have others : (rest.map object).mapM ofObject? = some rest := ih
    rw [ofArray?, List.map_cons, List.mapM_cons, first, others]
    rfl

end Token

namespace Text.Json

theorem unitSpelled : ∀ n < 0x20, (codeUnit n).length = 4 ∧ hexValue? (codeUnit n) = some n ∧
    n.isValidChar := by
  decide

theorem spellSpelled (c : Char) : Spelled c (spell c) := by
  unfold spell
  split
  · next sign letter =>
    obtain ⟨before, after, split, _⟩ := List.lookup_eq_some_iff.mp letter
    exact .short (by simp [shorts, split])
  · next unnamed =>
    split
    · next low =>
      obtain ⟨four, value, scalar⟩ := unitSpelled c.toNat low
      have spelled := Spelled.unit four value scalar
      rw [Char.ofNat_toNat] at spelled
      exact spelled
    · next high =>
      refine .plain (Nat.le_of_not_lt high) ?_ ?_
      · rintro rfl
        contradiction
      · rintro rfl
        contradiction

theorem spellingsOf (text : List Char) : Spellings text (text.flatMap spell) := by
  induction text with
  | nil => exact .nil
  | cons c rest ih => exact .cons (spellSpelled c) ih

theorem stringQuotation (text : String) : Quotation text (string text).toList := by
  have quoted := Quotation.quoted (spellingsOf text.toList)
  rw [String.ofList_toList] at quoted
  rw [string, String.toList_ofList]
  exact quoted

theorem leadingZero (n : Nat) (zero : (Nat.toDigits 10 n).head? = some '0') :
    Nat.toDigits 10 n = ['0'] := by
  induction n using Nat.strongRecOn with
  | ind n ih =>
    rw [Nat.toDigits_eq_if (by decide)] at zero ⊢
    split at zero
    · next small =>
      rw [if_pos small]
      simpa using zero
    · next large =>
      rw [List.head?_append_of_ne_nil _ Nat.toDigits_ne_nil] at zero
      have value := congrArg (Nat.ofDigitChars 10 · 0) (ih (n / 10) (by omega) zero)
      rw [Nat.ofDigitChars_ten_toDigits] at value
      have none : n / 10 = 0 := value
      omega

theorem signedDerives {sign : List Char} (signed : sign = [] ∨ ∃ c ∈ ['-'], sign = [c]) (n : Nat) :
    Derives (.value (.number (if sign = ['-'] then -Int.ofNat n else Int.ofNat n) 0))
      (sign ++ (toString n).toList) := by
  have proper : Numeral.Proper ⟨sign, (toString n).toList, [], none⟩ := by
    refine ⟨signed, ⟨?_, fun c member => digitWritten member⟩, ?_, by simp, by simp⟩
    · rw [naturalDigits]
      exact Nat.toDigits_ne_nil
    · rw [naturalDigits]
      exact leadingZero n
  have derived := Derives.number proper
  simp only [Numeral.value, Numeral.text, Numeral.fractionText, Numeral.powerText, if_true,
    Option.map_none, Option.getD_none, List.append_nil, naturalDigits,
    Nat.ofDigitChars_ten_toDigits] at derived
  rw [naturalDigits]
  exact derived

theorem integerDerives (z : Int) : Derives (.value (.number z 0)) (toString z).toList := by
  cases z with
  | ofNat n => exact signedDerives (.inl rfl) n
  | negSucc n =>
    rw [negativeText]
    exact signedDerives (.inr ⟨'-', by simp, rfl⟩) (n + 1)

theorem stackDerives {α : Type} {one : α → List Char → Prop} (all : List α → List Char → Prop)
    (last : ∀ {a front}, one a front → all [a] front)
    (more : ∀ {a front list others}, one a front → all list others →
      all (a :: list) (front ++ ',' :: others)) {lines : List String} {list : List α}
    (entries : List.Forall₂ (fun line a => ∀ gap, Spaces gap → one a ('\n' :: (line.toList ++ gap)))
      lines list) (filled : list ≠ []) {gap : List Char} (spaces : Spaces gap) :
    all list ('\n' :: ((String.intercalate ",\n" lines).toList ++ gap)) := by
  induction entries with
  | nil => contradiction
  | @cons line a lines list first others ih =>
    cases others with
    | nil => simpa using last (first gap spaces)
    | cons second later =>
      have rest := more (first [] (by simp [Spaces])) (ih (by simp))
      simpa [String.intercalate_cons_cons] using rest

end Text.Json

namespace Token

theorem membersAgree (t : Token) : List.Forall₂ (fun (m : String × String) (f : String × Value) =>
    m.1 = f.1 ∧ Derives (.value f.2) m.2.toList) t.members t.fields := by
  obtain ⟨kind, start, stop⟩ := t
  have place : ∀ n : Nat, Derives (.value (.number n 0)) (toString n).toList :=
    fun n => integerDerives n
  have quoted : ∀ text, Derives (.value (.string text)) (Json.string text).toList :=
    fun text => .string (stringQuotation text)
  have tail : List.Forall₂ (fun (m : String × String) (f : String × Value) =>
      m.1 = f.1 ∧ Derives (.value f.2) m.2.toList)
      [("start", toString start), ("end", toString stop)]
      [("start", .number start 0), ("end", .number stop 0)] :=
    .cons ⟨rfl, place start⟩ (.cons ⟨rfl, place stop⟩ .nil)
  cases kind with
  | word text => exact .cons ⟨rfl, quoted _⟩ (.cons ⟨rfl, quoted text⟩ tail)
  | number value => exact .cons ⟨rfl, quoted _⟩ (.cons ⟨rfl, integerDerives value⟩ tail)
  | symbol c => exact .cons ⟨rfl, quoted _⟩ (.cons ⟨rfl, quoted _⟩ tail)
  | eof => exact .cons ⟨rfl, quoted _⟩ tail

theorem memberDerives {m : String × String} {f : String × Value}
    (agree : m.1 = f.1 ∧ Derives (.value f.2) m.2.toList) {gap : List Char} (spaces : Spaces gap) :
    Derives (.member f.1 f.2)
      ('\n' :: (("    " ++ Json.string m.1 ++ ": " ++ m.2).toList ++ gap)) := by
  obtain ⟨name, v⟩ := f
  obtain ⟨rfl, derived⟩ := agree
  have indent : Spaces ('\n' :: "    ".toList) := by decide
  have blank : Spaces [' '] := by decide
  have member := Derives.member indent (stringQuotation m.1) (show Spaces [] by simp [Spaces])
    (.element blank derived spaces)
  simpa using member

theorem elementDerives (t : Token) {gap : List Char} (spaces : Spaces gap) :
    Derives (.element t.object) ('\n' :: (t.jsonElement.toList ++ gap)) := by
  have indent : Spaces ('\n' :: "  ".toList) := by decide
  have entries : List.Forall₂ (fun (line : String) (f : String × Value) => ∀ gap, Spaces gap →
      Derives (.member f.1 f.2) ('\n' :: (line.toList ++ gap)))
      (t.members.map fun m => "    " ++ Json.string m.1 ++ ": " ++ m.2) t.fields :=
    List.forall₂_map_left_iff.mpr
      ((membersAgree t).imp fun _ _ agree gap spaces => memberDerives agree spaces)
  have inside := stackDerives (fun list text => Derives (.members list) text) .lastMember .moreMembers
    entries (by simp [fields]) indent
  have element := Derives.element indent (.object inside) spaces
  simpa [jsonElement, object] using element

theorem arrayDerives (tokens : List Token) :
    Derives (.value (.array (tokens.map object))) (jsonArray tokens).toList := by
  cases tokens with
  | nil => exact .emptyArray (show Spaces [] by simp [Spaces])
  | cons t rest =>
    have entries : List.Forall₂ (fun (line : String) (v : Value) => ∀ gap, Spaces gap →
        Derives (.element v) ('\n' :: (line.toList ++ gap)))
        ((t :: rest).map jsonElement) ((t :: rest).map object) :=
      List.forall₂_map_left_iff.mpr (List.forall₂_map_right_iff.mpr
        (List.forall₂_same.mpr fun t _ gap spaces => elementDerives t spaces))
    have inside := stackDerives (fun items text => Derives (.elements items) text) .lastElement
      .moreElements entries (by simp) (show Spaces ['\n'] by decide)
    have array := Derives.array inside
    simpa [jsonArray] using array

end Token

/-- The JSON listing is a document and a line break. The document names one value only, the array of
an object for each token, and the tokens can be told from it; the end of input alone has no value. -/
theorem documentKeepsTokens (spans : Bool) (tokens : List Token) (hides : Char → Bool) :
    ∃ document : String, listing .json spans tokens hides = document ++ "\n" ∧
      (∀ v, Document document.toList v ↔ v = .array (tokens.map Token.object)) ∧
      document? (listing .json spans tokens hides).toList = some (.array (tokens.map Token.object)) ∧
      Token.ofArray? (.array (tokens.map Token.object)) = some tokens ∧
      ∀ t ∈ tokens, t.fields.lookup "value" = none ↔ t.kind = .eof := by
  have derived := Token.arrayDerives tokens
  have none : Spaces [] := by simp [Spaces]
  have whole : Document (Token.jsonArray tokens).toList (.array (tokens.map Token.object)) := by
    have element := Derives.element none derived none
    rw [List.nil_append, List.append_nil] at element
    exact element
  have ended : Document (listing .json spans tokens hides).toList
      (.array (tokens.map Token.object)) := by
    have element := Derives.element none derived (show Spaces ['\n'] by decide)
    rw [listing, String.toList_append]
    exact element
  refine ⟨Token.jsonArray tokens, rfl, ?_, ?_, Token.arrayTokens tokens, ?_⟩
  · intro v
    constructor
    · intro other
      have same := (documentExact _ v).mpr other
      rw [(documentExact _ _).mpr whole] at same
      exact (Option.some.inj same).symm
    · rintro rfl
      exact whole
  · exact (documentExact _ _).mpr ended
  · intro t _
    rw [Token.valueField]
    cases t.kind <;> simp [Kind.value?]

end ModalLexer
