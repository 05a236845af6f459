import ModalLexer.Listing
import ModalLexer.Proofs.Legible

/-! What a listing in text keeps. A token is one line, with no control in it, and the lines give the
tokens back, or their kinds where the spans are left out. -/
namespace ModalLexer

open Text
open Unicode (isControl isHidden)

theorem unlinesNil : (unlines []).toList = [] := rfl

theorem unlinesCons (line : String) (lines : List String) :
    (unlines (line :: lines)).toList = line.toList ++ '\n' :: (unlines lines).toList := by
  simp [unlines, String.join_cons]

theorem breakUnique {line other x y : List Char} (unbroken : '\n' ∉ line) (alike : '\n' ∉ other)
    (same : line ++ '\n' :: x = other ++ '\n' :: y) : line = other ∧ x = y := by
  have inside : ∀ {text : List Char}, '\n' ∉ text → ∀ c ∈ text, decide (c ≠ '\n') = true := by
    intro text none c member
    exact decide_eq_true fun same => none (same ▸ member)
  obtain ⟨front, back⟩ := runUnique (inside unbroken) (inside alike) (by simp) (by simp) same
  exact ⟨front, (List.cons.inj back).2⟩

theorem unlinesInjective {lines others : List String} (unbroken : ∀ line ∈ lines, '\n' ∉ line.toList)
    (alike : ∀ line ∈ others, '\n' ∉ line.toList) (same : unlines lines = unlines others) :
    lines = others := by
  induction lines generalizing others with
  | nil =>
    cases others with
    | nil => rfl
    | cons other more =>
      have text := congrArg String.toList same
      rw [unlinesCons, unlinesNil] at text
      exact absurd text.symm (by simp)
  | cons line lines ih =>
    cases others with
    | nil =>
      have text := congrArg String.toList same
      rw [unlinesCons, unlinesNil] at text
      exact absurd text (by simp)
    | cons other more =>
      obtain ⟨whole, rest⟩ := List.forall_mem_cons.mp unbroken
      obtain ⟨entire, remaining⟩ := List.forall_mem_cons.mp alike
      have text := congrArg String.toList same
      rw [unlinesCons, unlinesCons] at text
      obtain ⟨front, back⟩ := breakUnique whole entire text
      rw [String.toList_inj.mp front, ih rest remaining (String.toList_inj.mp back)]

theorem spanLegible : Legible (fun s : Span => s.text.toList) Undigited := by
  intro a b x y outside other same
  have dots : ∀ rest, Undigited ("..".toList ++ rest) := by simp [Undigited]
  simp only [Span.text, String.toList_append, List.append_assoc] at same
  obtain ⟨start, later⟩ := naturalLegible a.start b.start _ _ (dots _) (dots _) same
  obtain ⟨stop, rest⟩ :=
    naturalLegible a.stop b.stop x y outside other (List.append_cancel_left later)
  cases a
  cases b
  cases start
  cases stop
  exact ⟨rfl, rest⟩

namespace Kind

variable (hides : Char → Bool)

theorem plainLegible : Legible (fun k : Kind => (k.plain hides).toList) Undigited := by
  intro a b x y outside other same
  cases a with
  | word text =>
    cases b with
    | word more =>
      simp only [plain, String.toList_append, List.append_assoc] at same
      obtain ⟨value, rest⟩ := Quoted.stringLegible hides text more x y trivial trivial
        (List.append_cancel_left same)
      exact ⟨congrArg word value, rest⟩
    | _ => simp [plain] at same
  | number value =>
    cases b with
    | number more =>
      simp only [plain, String.toList_append, List.append_assoc] at same
      obtain ⟨value, rest⟩ := integerLegible value more x y outside other
        (List.append_cancel_left same)
      exact ⟨congrArg number value, rest⟩
    | _ => simp [plain] at same
  | symbol c =>
    cases b with
    | symbol more =>
      simp only [plain, String.toList_append, List.append_assoc] at same
      obtain ⟨value, rest⟩ := Quoted.charLegible hides c more x y trivial trivial
        (List.append_cancel_left same)
      exact ⟨congrArg symbol value, rest⟩
    | _ => simp [plain] at same
  | eof =>
    cases b with
    | eof => exact ⟨rfl, List.append_cancel_left same⟩
    | _ => simp [plain] at same

theorem termLegible : Legible (fun k : Kind => (k.term hides).toList) Anything := by
  intro a b x y _ _ same
  have closed : ∀ rest, Undigited (")".toList ++ rest) := by simp [Undigited]
  cases a with
  | word text =>
    cases b with
    | word more =>
      simp only [term, title, String.toList_append, List.append_assoc] at same
      obtain ⟨value, rest⟩ := Quoted.stringLegible hides text more _ _ trivial trivial
        (List.append_cancel_left (List.append_cancel_left same))
      exact ⟨congrArg word value, List.append_cancel_left rest⟩
    | _ => simp [term, title] at same
  | number value =>
    cases b with
    | number more =>
      simp only [term, title, String.toList_append, List.append_assoc] at same
      obtain ⟨value, rest⟩ := integerLegible value more _ _ (closed x) (closed y)
        (List.append_cancel_left (List.append_cancel_left same))
      exact ⟨congrArg number value, List.append_cancel_left rest⟩
    | _ => simp [term, title] at same
  | symbol c =>
    cases b with
    | symbol more =>
      simp only [term, title, String.toList_append, List.append_assoc] at same
      obtain ⟨value, rest⟩ := Quoted.charLegible hides c more _ _ trivial trivial
        (List.append_cancel_left (List.append_cancel_left same))
      exact ⟨congrArg symbol value, List.append_cancel_left rest⟩
    | _ => simp [term, title] at same
  | eof =>
    cases b with
    | eof => exact ⟨rfl, List.append_cancel_left same⟩
    | _ => simp [term, title] at same

variable {hides} (covers : ∀ c, isControl c = true → hides c = true)

include covers in
theorem plainVisible (k : Kind) : Visible (k.plain hides).toList := by
  cases k with
  | word text =>
    simp only [plain, String.toList_append]
    exact visibleAppend.mpr ⟨by decide, Quoted.stringVisible covers text⟩
  | number value =>
    simp only [plain, String.toList_append]
    exact visibleAppend.mpr ⟨by decide, integerVisible value⟩
  | symbol c =>
    simp only [plain, String.toList_append]
    exact visibleAppend.mpr ⟨by decide, Quoted.charVisible covers c⟩
  | eof => exact (by decide : Visible "eof".toList)

include covers in
theorem termVisible (k : Kind) : Visible (k.term hides).toList := by
  have closed : Visible ")".toList := by decide
  cases k with
  | word text =>
    simp only [term, title, String.toList_append]
    exact visibleAppend.mpr ⟨visibleAppend.mpr ⟨by decide, Quoted.stringVisible covers text⟩, closed⟩
  | number value =>
    simp only [term, title, String.toList_append]
    exact visibleAppend.mpr ⟨visibleAppend.mpr ⟨by decide, integerVisible value⟩, closed⟩
  | symbol c =>
    simp only [term, title, String.toList_append]
    exact visibleAppend.mpr ⟨visibleAppend.mpr ⟨by decide, Quoted.charVisible covers c⟩, closed⟩
  | eof => exact (by decide : Visible "Eof".toList)

end Kind

namespace Token

variable (hides : Char → Bool)

theorem paddedText (t : Token) :
    (t.plain true hides).toList = (t.kind.plain hides).toList ++
      (List.replicate (spanColumn - (t.kind.plain hides).toList.length) ' ' ++
        (' ' :: t.span.text.toList)) := by
  simp [plain, List.rightpad]

theorem blanksUndigited (n : Nat) (rest : List Char) :
    Undigited (List.replicate n ' ' ++ ' ' :: rest) := by
  cases n <;> simp [Undigited, List.replicate_succ]

theorem plainLegible : Legible (fun t : Token => (t.plain true hides).toList) Undigited := by
  intro a b x y outside other same
  simp only [paddedText, List.append_assoc, List.cons_append] at same
  obtain ⟨kind, later⟩ := Kind.plainLegible hides a.kind b.kind _ _
    (blanksUndigited _ _) (blanksUndigited _ _) same
  rw [kind] at later
  obtain ⟨span, rest⟩ := spanLegible a.span b.span x y outside other
    (List.cons.inj (List.append_cancel_left later)).2
  cases a
  cases b
  cases kind
  cases span
  exact ⟨rfl, rest⟩

theorem debugLegible : Legible (fun t : Token => (t.debug hides).toList) Undigited := by
  intro a b x y outside other same
  simp only [debug, String.toList_append, List.append_assoc] at same
  obtain ⟨kind, later⟩ := Kind.termLegible hides a.kind b.kind _ _ trivial trivial same
  obtain ⟨span, rest⟩ := spanLegible a.span b.span x y outside other
    (List.append_cancel_left later)
  cases a
  cases b
  cases kind
  cases span
  exact ⟨rfl, rest⟩

variable {hides} (covers : ∀ c, isControl c = true → hides c = true)

theorem spanVisible (s : Span) : Visible s.text.toList := by
  simp only [Span.text, String.toList_append]
  exact visibleAppend.mpr
    ⟨visibleAppend.mpr ⟨naturalVisible s.start, by decide⟩, naturalVisible s.stop⟩

include covers in
theorem plainVisible (spans : Bool) (t : Token) : Visible (t.plain spans hides).toList := by
  cases spans with
  | false => exact Kind.plainVisible covers t.kind
  | true =>
    have blanks : Visible (List.replicate (spanColumn - (t.kind.plain hides).toList.length) ' ') := by
      intro c member
      rw [List.eq_of_mem_replicate member]
      decide
    rw [paddedText]
    exact visibleAppend.mpr ⟨Kind.plainVisible covers t.kind,
      visibleAppend.mpr ⟨blanks, visibleCons.mpr ⟨by decide, spanVisible t.span⟩⟩⟩

include covers in
theorem debugVisible (t : Token) : Visible (t.debug hides).toList := by
  simp only [debug, String.toList_append]
  exact visibleAppend.mpr
    ⟨visibleAppend.mpr ⟨Kind.termVisible covers t.kind, by decide⟩, spanVisible t.span⟩

end Token

theorem linesTell {α : Type} {line : Token → String} {part : Token → α}
    (visible : ∀ t, Visible (line t).toList) (tells : ∀ t u, line t = line u → part t = part u)
    {tokens others : List Token} (same : unlines (tokens.map line) = unlines (others.map line)) :
    tokens.map part = others.map part := by
  have unbroken : ∀ some : List Token, ∀ text ∈ some.map line, '\n' ∉ text.toList := by
    intro some text member broken
    obtain ⟨t, _, rfl⟩ := List.mem_map.mp member
    exact absurd (visible t '\n' broken) (by decide)
  have lines := unlinesInjective (unbroken tokens) (unbroken others) same
  clear same
  induction tokens generalizing others with
  | nil => rw [List.map_eq_nil_iff.mp lines.symm]
  | cons t rest ih =>
    cases others with
    | nil => cases lines
    | cons u more =>
      obtain ⟨head, tail⟩ := List.cons.inj lines
      rw [List.map_cons, List.map_cons, tells t u head, ih tail]

theorem linesTellTokens {line : Token → String} (visible : ∀ t, Visible (line t).toList)
    (legible : Legible (fun t => (line t).toList) Undigited) {tokens others : List Token}
    (same : unlines (tokens.map line) = unlines (others.map line)) : tokens = others := by
  have tells : ∀ t u, line t = line u → id t = id u := fun t u text =>
    legibleWhole legible undigitedEnd (congrArg String.toList text)
  have whole := linesTell visible tells same
  rwa [List.map_id, List.map_id] at whole

/-- Listings in text are lines, one for each token and without any control, whatever else is hidden.
The lines give the tokens back; without their spans, they give the kinds back and nothing more. -/
theorem linesKeepTokens {hides : Char → Bool}
    (covers : ∀ c, isControl c = true → hides c = true) :
    (∀ format spans, format ≠ .json → ∃ line : Token → String,
      (∀ t, Visible (line t).toList) ∧
        ∀ tokens, listing format spans tokens hides = unlines (tokens.map line)) ∧
      (∀ spans tokens others,
        listing .debug spans tokens hides = listing .debug spans others hides → tokens = others) ∧
      (∀ tokens others,
        listing .plain true tokens hides = listing .plain true others hides → tokens = others) ∧
      ∀ tokens others, listing .plain false tokens hides = listing .plain false others hides ↔
        tokens.map Token.kind = others.map Token.kind := by
  refine ⟨?_, ?_, ?_, ?_⟩
  · intro format spans text
    cases format with
    | plain => exact ⟨_, Token.plainVisible covers spans, fun _ => rfl⟩
    | debug => exact ⟨_, Token.debugVisible covers, fun _ => rfl⟩
    | json => contradiction
  · intro _ _ _ same
    exact linesTellTokens (Token.debugVisible covers) (Token.debugLegible hides) same
  · intro _ _ same
    exact linesTellTokens (Token.plainVisible covers true) (Token.plainLegible hides) same
  · intro tokens others
    constructor
    · intro same
      have tells : ∀ t u : Token, t.plain false hides = u.plain false hides → t.kind = u.kind :=
        fun t u text =>
          legibleWhole (Kind.plainLegible hides) undigitedEnd (congrArg String.toList text)
      exact linesTell (Token.plainVisible covers false) tells same
    · intro same
      have kinds := congrArg (fun kinds => unlines (kinds.map (Kind.plain · hides))) same
      simp only [List.map_map] at kinds
      exact kinds

theorem quotedSpanKept :
    let word : Token := ⟨.word "a\" 0..3\n", ⟨0, 9⟩⟩
    let quoted : Token := ⟨.word "a\\\" 0..3\\n", ⟨0, 9⟩⟩
    (∀ c, isControl c = true → isHidden c = true) ∧ Format.debug ≠ .json ∧
      (∃ line : Token → String, (∀ t, Visible (line t).toList) ∧
        ∀ tokens, listing .debug false tokens = unlines (tokens.map line)) ∧
      listing .plain true [word] = "word \"a\\\" 0..3\\n\"        0..9\n" ∧
      listing .plain true [word] ≠ listing .plain true [quoted] ∧
      listing .debug false [word] ≠ listing .debug false [quoted] ∧
      listing .plain false [word] ≠ listing .plain false [quoted] := by
  intro word quoted
  have covers : ∀ c, isControl c = true → isHidden c = true := fun c => Unicode.controlsHidden
  obtain ⟨lines, debug, plain, kinds⟩ := linesKeepTokens covers
  have apart : [word] ≠ [quoted] := by decide
  have kindsApart : [word].map Token.kind ≠ [quoted].map Token.kind := by decide
  exact ⟨covers, by decide, lines .debug false (by decide), by decide +kernel,
    fun same => apart (plain _ _ same), fun same => apart (debug false _ _ same),
    fun same => kindsApart ((kinds _ _).mp same)⟩

end ModalLexer
