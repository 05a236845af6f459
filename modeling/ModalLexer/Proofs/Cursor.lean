import ModalLexer.Proofs.Bytes
import ModalLexer.Proofs.Request

/-! Cursors and sessions. A session that stands at a place of its source is asked through its byte
alone: each slice that the cursor cuts lies between characters, and both give the same answer. -/
namespace ModalLexer
open Text
open Unicode (isLetter isBlank)

namespace Session

variable {s : Session} {taken text rest : List Char}

theorem pastPlaced (placed : s.Placed) (split : s.rest = taken ++ rest) :
    (s.past taken rest).Placed := by
  obtain ⟨passed, whole, place⟩ := placed
  refine ⟨passed ++ taken, ?_, ?_⟩
  · rw [show (s.past taken rest).source = s.source from rfl, whole, split, List.append_assoc]
    rfl
  · rw [utf8SizeAppend, place]
    rfl

theorem pastPast (s : Session) (taken more text rest : List Char) :
    (s.past taken text).past more rest = s.past (taken ++ more) rest := by
  simp [past, Nat.add_assoc]

theorem pastNone (s : Session) : s.past [] s.rest = s := rfl

theorem bumpPast (s : Session) (c : Char) (rest : List Char) :
    s.cursor.bump c = (s.past [c] rest).cursor := by
  simp [Cursor.bump, cursor, past]

theorem sliceAhead (placed : s.Placed) (split : s.rest = taken ++ rest) :
    slice? s.source s.pos (s.pos + utf8Size taken) = some (String.ofList taken) := by
  obtain ⟨passed, whole, place⟩ := placed
  rw [split] at whole
  rw [← place]
  exact sliceExact whole

theorem placedSize (placed : s.Placed) : s.pos + utf8Size s.rest = s.source.utf8ByteSize := by
  obtain ⟨passed, whole, place⟩ := placed
  rw [← utf8SizeToList, whole, utf8SizeAppend, place]

theorem bytesAfter (placed : s.Placed) : bytesFrom? s.source s.pos = some (encode s.rest) := by
  have size := placedSize placed
  obtain ⟨passed, whole, place⟩ := placed
  rw [bytesFrom?, if_pos (by omega), ← place, bytesAhead whole]

theorem peekHead (placed : s.Placed) : s.cursor.peek? = some s.rest.head? := by
  have size := placedSize placed
  have ahead := sliceAhead placed (List.append_nil _).symm
  rw [size] at ahead
  simp only [Cursor.peek?, cursor, ahead, Option.map_some, String.toList_ofList]

theorem skipPast {blanks : List Char} (placed : s.Placed) (split : s.rest = blanks ++ text)
    (gap : ∀ c ∈ blanks, isBlank c = true) (first : ∀ c ∈ text.head?, isBlank c = false) :
    s.cursor.skipBlanks? = some (s.past blanks text).cursor := by
  induction blanks generalizing s with
  | nil =>
    have front : s.rest = text := split
    rw [Cursor.skipBlanksUnfold, peekHead placed, ← front, pastNone]
    rw [← front] at first
    cases ahead : s.rest.head? with
    | none => rfl
    | some c => simp [first c ahead]
  | cons c more ih =>
    have step : s.rest = [c] ++ (more ++ text) := split
    have later := ih (pastPlaced placed step) rfl
      (fun d member => gap d (List.mem_cons_of_mem _ member))
    rw [Cursor.skipBlanksUnfold, peekHead placed, split]
    simp only [List.cons_append, List.head?_cons, gap c (by simp), if_true]
    rw [bumpPast s c (more ++ text), later, pastPast]
    rfl

theorem wordEscape {c : Char} (placed : s.Placed) (front : s.rest = escapeMark :: c :: rest)
    (first : Nat) (chars : List Char) :
    Cursor.wordOnto? first chars s.cursor =
      if isLetter c then
        some (.error (.escapedLetter (.between s.pos (s.pos + escapeMark.utf8Size + c.utf8Size)) c
          (clampOffset first)), (s.past [escapeMark, c] rest).cursor)
      else Cursor.wordOnto? first (c :: chars) (s.past [escapeMark, c] rest).cursor := by
  have slash : s.rest = [escapeMark] ++ c :: rest := front
  have both : ((s.past [escapeMark] (c :: rest)).cursor.bump c) =
      (s.past [escapeMark, c] rest).cursor := by
    rw [bumpPast _ c rest, pastPast]
    rfl
  rw [Cursor.wordOntoUnfold, peekHead placed, front]
  simp only [List.head?_cons, if_true]
  rw [bumpPast s escapeMark (c :: rest), peekHead (pastPlaced placed slash)]
  rw [show (s.past [escapeMark] (c :: rest)).rest.head? = some c from rfl]
  simp only [both]
  simp [cursor, past, Nat.add_assoc]

theorem wordPast {glyphs : List Glyph} (placed : s.Placed)
    (split : s.rest = Glyph.lexeme glyphs ++ rest) (proper : ∀ g ∈ glyphs, Glyph.Proper g)
    (first : Nat) (chars : List Char) :
    Cursor.wordOnto? first chars s.cursor =
      Cursor.wordOnto? first ((glyphs.map Glyph.char).reverse ++ chars)
        (s.past (Glyph.lexeme glyphs) rest).cursor := by
  induction glyphs generalizing s chars with
  | nil =>
    have front : s.rest = rest := split
    rw [← front]
    rfl
  | cons g more ih =>
    have head := proper g (by simp)
    have step : s.rest = g.spelling ++ (Glyph.lexeme more ++ rest) := by
      simpa [Glyph.lexeme] using split
    have later := ih (pastPlaced placed step) rfl
      (fun other member => proper other (List.mem_cons_of_mem _ member)) (g.char :: chars)
    rw [pastPast] at later
    have shape : (g.char :: more.map Glyph.char).reverse ++ chars =
        (more.map Glyph.char).reverse ++ g.char :: chars := by simp
    rw [List.map_cons, shape]
    refine Eq.trans ?_ later
    cases g with
    | letter c =>
      rw [Cursor.wordOntoUnfold, peekHead placed, step]
      simp only [Glyph.spelling, List.singleton_append, List.head?_cons, letterNoEscape head,
        if_false, show isLetter c = true from head, if_true, Glyph.char]
      rw [bumpPast s c (Glyph.lexeme more ++ rest)]
    | escaped c =>
      have noLetter : isLetter c = false := head
      rw [wordEscape placed step, if_neg (by simp [noLetter])]
      rfl

theorem wordStops (placed : s.Placed)
    (stop : ∀ c ∈ s.rest.head?, isLetter c = false ∧ c ≠ escapeMark) (first : Nat)
    (chars : List Char) :
    Cursor.wordOnto? first chars s.cursor =
      some (.ok ⟨.word (String.ofList chars.reverse), .between first s.pos⟩, s.cursor) := by
  rw [Cursor.wordOntoUnfold, peekHead placed]
  cases ahead : s.rest.head? with
  | none => rfl
  | some c =>
    obtain ⟨noLetter, noEscape⟩ := stop c ahead
    simp only [noEscape, noLetter, Bool.false_eq_true, if_false]
    rfl

theorem wordDangles (placed : s.Placed) (front : s.rest = [escapeMark]) (first : Nat)
    (chars : List Char) :
    Cursor.wordOnto? first chars s.cursor =
      some (.error (.danglingEscape (.between s.pos (s.pos + escapeMark.utf8Size))
        (.word (clampOffset first))), (s.past [escapeMark] []).cursor) := by
  rw [Cursor.wordOntoUnfold, peekHead placed, front]
  simp only [List.head?_cons, if_true]
  rw [bumpPast s escapeMark [], peekHead (pastPlaced placed front)]
  rfl

theorem numberPast {digits : List Char} (placed : s.Placed) (split : s.rest = digits ++ rest)
    (inside : ∀ c ∈ digits, isNumeral c = true) (stop : ∀ c ∈ rest.head?, isNumeral c = false) :
    s.cursor.number? =
      some (match numberOf? digits with
        | some value => .ok ⟨.number value, .between s.pos (s.pos + utf8Size digits)⟩
        | none => .error (.numberOverflow (.between s.pos (s.pos + utf8Size digits))
            (String.ofList digits)),
        (s.past digits rest).cursor) := by
  have ahead := bytesAfter placed
  have scan := numeralScan s.rest
  rw [split, takeWhileExact inside stop] at scan
  rw [split] at ahead
  simp only [Cursor.number?, cursor, ahead, scan, sliceAhead placed split, Option.bind_eq_bind,
    Option.bind_some, String.toList_ofList]
  cases numberOf? digits <;> rfl

theorem runPast {lexeme : List Char} (placed : s.Placed) (split : s.rest = lexeme ++ rest)
    (inside : ∀ c ∈ lexeme, inRun c = true) (stop : ∀ c ∈ rest.head?, inRun c = false) :
    s.cursor.run? =
      some (.ok ⟨.word (String.ofList lexeme), .between s.pos (s.pos + utf8Size lexeme)⟩,
        { (s.past lexeme rest).cursor with
          mode := if rest.head? = some switchMark then .basic else s.mode }) := by
  have ahead := bytesAfter placed
  have scan := runScan s.rest
  have later := bytesAfter (pastPlaced placed split)
  rw [split, takeWhileExact inside stop] at scan
  rw [split] at ahead
  have marked : (bytes s.source)[s.pos + utf8Size lexeme]? = (encode rest).head? := by
    rw [bytesFrom?, Option.ite_none_right_eq_some] at later
    rw [← List.head?_drop]
    exact congrArg List.head? (Option.some.inj later.2)
  simp only [Cursor.run?, cursor, ahead, scan, sliceAhead placed split, Option.bind_eq_bind,
    Option.bind_some, marked, markAhead]
  rfl

theorem readBasic {c : Char} (placed : s.Placed) (ahead : s.rest.head? = some c)
    (basic : s.mode = .basic ∨ c = switchMark) : s.cursor.read? = s.cursor.basic? c := by
  have noRun : ¬ (s.cursor.mode = .extended ∧ c ≠ switchMark) := by
    rintro ⟨extended, noMark⟩
    exact absurd (extended.symm.trans (basic.resolve_right noMark)) (by decide)
  simp only [Cursor.read?, peekHead placed, ahead, Option.bind_eq_bind, Option.bind_some, noRun,
    if_false]

theorem basicAlone (placed : s.Placed) (front : s.rest = [escapeMark]) :
    s.cursor.basic? escapeMark =
      some (.error (.danglingEscape (.between s.pos (s.pos + escapeMark.utf8Size)) .topLevel),
        s.cursor) := by
  have size := placedSize placed
  rw [front, utf8SizeCons, utf8SizeNil, Nat.add_zero] at size
  simp [Cursor.basic?, cursor, size]

theorem basicWord {c : Char} (placed : s.Placed) (ahead : s.rest.head? = some c)
    (starts : isLetter c = true ∨ c = escapeMark) (more : s.rest ≠ [escapeMark]) :
    s.cursor.basic? c = Cursor.wordOnto? s.pos [] s.cursor := by
  have size := placedSize placed
  have noEnd : ¬ (c = escapeMark ∧ s.cursor.pos + escapeMark.utf8Size =
      s.cursor.source.utf8ByteSize) := by
    rintro ⟨rfl, last⟩
    obtain ⟨tail, front⟩ := List.head?_eq_some_iff.mp ahead
    have none : tail = [] := by
      apply utf8SizeZero
      simp only [front, utf8SizeCons] at size
      simp only [cursor] at last
      omega
    exact more (none ▸ front)
  have letter : (isLetter c || c == escapeMark) = true := by simpa using starts
  simp only [Cursor.basic?, noEnd, letter, if_false, if_true]
  rfl

theorem basicNumber {c : Char} (digit : c.isDigit = true) :
    s.cursor.basic? c = s.cursor.number? := by
  simp [Cursor.basic?, digitNoEscape digit, digitNoLetter digit, digit]

theorem readAccept {kind lexeme next} (placed : s.Placed) (split : s.rest = lexeme ++ rest)
    (rule : Rule s.mode kind lexeme rest.head? next) :
    s.cursor.read? =
      some (.ok (s.accept ⟨kind, lexeme, rest, next⟩).1,
        { (s.past lexeme rest).cursor with mode := next }) := by
  generalize modes : s.mode = mode at rule
  generalize ahead : rest.head? = follow at rule
  cases rule with
  | mark =>
    rw [readBasic placed (by rw [split]; rfl) (.inr rfl)]
    subst modes
    rfl
  | run filled inside stop =>
    obtain ⟨c, tail, rfl⟩ := List.exists_cons_of_ne_nil filled
    have front : s.rest.head? = some c := by rw [split]; rfl
    have noMark := (inside c (by simp)).2
    have within : ∀ d ∈ c :: tail, inRun d = true := fun d member =>
      (runInside d).mpr (inside d member)
    have ends : ∀ d ∈ rest.head?, inRun d = false := fun d head =>
      (runOutside d).mpr (stop d (ahead ▸ head))
    have run := runPast placed split within ends
    rw [ahead, modes] at run
    simp only [Cursor.read?, peekHead placed, front, Option.bind_eq_bind, Option.bind_some]
    rw [if_pos ⟨modes, noMark⟩, run]
    rfl
  | @word glyphs _ filled proper stop =>
    obtain ⟨c, tail, front, starts⟩ := Glyph.lexemeStarts proper filled rest
    have first : s.rest.head? = some c := by rw [split, front]; rfl
    rw [readBasic placed first (.inl modes),
      basicWord placed first starts (split ▸ Glyph.lexemeNoSlash proper filled rest),
      wordPast placed split proper, wordStops (pastPlaced placed split) (by
        intro d head
        exact stop d (ahead ▸ head))]
    simp [accept, past, cursor, modes]
  | number filled inside stop fits =>
    obtain ⟨c, tail, rfl⟩ := List.exists_cons_of_ne_nil filled
    have front : s.rest.head? = some c := by rw [split]; rfl
    have within : ∀ d ∈ c :: tail, isNumeral d = true := fun d member =>
      digitNumeral (inside d member)
    have ends : ∀ d ∈ rest.head?, isNumeral d = false := fun d head =>
      (numeralExact d).mpr (stop d (ahead ▸ head))
    rw [readBasic placed front (.inl modes), basicNumber (inside c (by simp)),
      numberPast placed split within ends, Piece.numberFits inside fits]
    simp [accept, past, cursor, modes]
  | @symbol c _ noLetter noDigit noEscape noMark =>
    rw [readBasic placed (by rw [split]; rfl) (.inl modes), Cursor.basic?]
    simp [noLetter, noDigit, noEscape, noMark, Cursor.symbol, Cursor.bump, accept, past,
      cursor, modes]

theorem readReject {snag} (placed : s.Placed) (basic : s.mode = .basic)
    (obstacle : Obstacle s.rest snag) :
    s.cursor.read? = some (.error (s.reject snag).1, (s.reject snag).2.cursor) := by
  generalize split : s.rest = text at obstacle
  cases obstacle with
  | @dangling glyphs proper =>
    by_cases bare : glyphs = []
    · subst bare
      have ahead : s.rest.head? = some escapeMark := by rw [split]; rfl
      rw [readBasic placed ahead (.inl basic), basicAlone placed split]
      rfl
    · have filled : Glyph.lexeme glyphs ≠ [] := fun empty => bare (Glyph.lexemeEmpty empty)
      obtain ⟨c, tail, front, starts⟩ := Glyph.lexemeStarts proper bare [escapeMark]
      have first : s.rest.head? = some c := by rw [split, front]; rfl
      rw [readBasic placed first (.inl basic),
        basicWord placed first starts (split ▸ Glyph.lexemeNoSlash proper bare _),
        wordPast placed split proper, wordDangles (pastPlaced placed split) rfl, pastPast]
      simp [reject, filled, past, cursor, Nat.add_assoc]
  | @letter glyphs letter rest proper escaped =>
    obtain ⟨c, tail, front, starts⟩ := Piece.obstacleStarts proper (letter :: rest)
    have first : s.rest.head? = some c := by rw [split, front]; rfl
    have long : s.rest ≠ [escapeMark] := by
      intro same
      have lengths := congrArg List.length (split.symm.trans same)
      simp only [List.length_append, List.length_cons, List.length_nil] at lengths
      omega
    rw [readBasic placed first (.inl basic), basicWord placed first starts long,
      wordPast placed split proper, wordEscape (pastPlaced placed split) rfl, if_pos escaped, pastPast]
    simp [reject, past, cursor, Nat.add_assoc]
  | @overflow first digits rest start inside stop large =>
    have ahead : s.rest.head? = some first := by rw [split]; rfl
    rw [readBasic placed ahead (.inl basic), basicNumber start,
      numberPast placed split inside stop, Piece.numberLarge.mpr large]
    rfl

theorem cursorEnded (s : Session) : s.cursor.ended = s.ended := by
  unfold Cursor.ended Session.ended
  cases ahead : s.current <;> simp [cursor, ahead]

theorem nextRead {blanks : List Char} {result : Except Fault Token} {c : Cursor}
    (placed : s.Placed) (going : s.ended = false) (split : s.rest = blanks ++ text)
    (gap : ∀ c ∈ blanks, isBlank c = true) (first : ∀ c ∈ text.head?, isBlank c = false)
    (read : (s.past blanks text).cursor.read? = some (result, c)) :
    s.cursor.next? =
      some (result, match result with
        | .ok token => { c with current := some token }
        | .error _ => c) := by
  have blanked := skipPast placed split gap first
  rw [Cursor.next?, if_neg (by simp [cursorEnded, going]), blanked]
  simp only [Option.bind_eq_bind, Option.bind_some, read]
  cases result <;> rfl

theorem yieldsCursor {result t} (placed : s.Placed) (yields : s.Yields result t) :
    s.cursor.next? = some (result, t.cursor) := by
  cases yields with
  | exhausted ended => rw [Cursor.next?, if_pos (by rw [cursorEnded, ended])]; rfl
  | eof going gap =>
    have split := (List.append_nil s.rest).symm
    have read : (s.past s.rest []).cursor.read? =
        some (.ok ⟨.eof, .point (clampOffset (s.past s.rest []).pos)⟩, (s.past s.rest []).cursor) := by
      rw [Cursor.read?, peekHead (pastPlaced placed split)]
      rfl
    exact nextRead placed going split gap (by simp) read
  | token going gap first split rule =>
    have read := readAccept (pastPlaced placed split) rfl rule
    rw [pastPast] at read
    rw [nextRead placed going split gap (by rwa [headOfAppend (ruleFilled rule)]) read]
    simp [accept, past, cursor, Nat.add_assoc]
  | fault going gap first split basic obstacle =>
    exact nextRead placed going split gap first
      (readReject (pastPlaced placed split) basic obstacle)

theorem nextCursor (placed : s.Placed) : s.cursor.next? = some (s.next.1, s.next.2.cursor) :=
  yieldsCursor placed s.nextYields

end Session
end ModalLexer
