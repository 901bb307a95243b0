import WivrnNx.KeyFile

/-!
# The layout of a key

A public key arrives as text, armoured or not, broken over lines as its writer pleased.
`KeyText` is any such layout of a key, and `cleanKey_text` says that `clean_key` (wivrn/session.cpp)
gives back the key alone.
-/

namespace WivrnNx

/-! ## Lines of a text -/

/-- What `clean_key` keeps of a line. -/
def cleanLine (line : Text) : Text :=
  if isArmour line then [] else line.filter fun c => !isBlank c

theorem cleanKey_line {line : Text} (rest : Text) (h : '\n' ∉ line) :
    cleanKey (line ++ '\n' :: rest) = cleanLine line ++ cleanKey rest := by
  rw [cleanKey, lines_line line rest h, List.flatMap_cons]
  rfl

theorem lines_lastLine {line : Text} (hne : line ≠ []) (h : '\n' ∉ line) :
    lines line = [line] := by
  induction line with
  | nil => exact absurd rfl hne
  | cons c line ih =>
    rw [List.mem_cons, not_or] at h
    rw [lines, if_neg (Ne.symm h.1)]
    by_cases hnil : line = []
    · rw [hnil]
      rfl
    · rw [ih hnil h.2]

/-- A line behind which there is no newline. -/
theorem cleanKey_lastLine {line : Text} (h : '\n' ∉ line) : cleanKey line = cleanLine line := by
  by_cases hnil : line = []
  · rw [hnil]
    rfl
  · rw [cleanKey, lines_lastLine hnil h, List.flatMap_singleton]
    rfl

/-- A text is cleaned line by line. -/
theorem cleanKey_intercalate {ls : List Text} (h : ∀ line ∈ ls, '\n' ∉ line) :
    cleanKey (List.intercalate ['\n'] ls) = ls.flatMap cleanLine := by
  induction ls with
  -- Every line but the last one is followed by its newline
  | nil => rfl
  | cons line ls ih =>
    have hline := h line List.mem_cons_self
    have hrest := ih fun l hl => h l (List.mem_cons_of_mem _ hl)
    rw [List.flatMap_cons, ← hrest]
    by_cases hnil : ls = []
    · rw [hnil, List.intercalate_singleton, cleanKey_lastLine hline]
      exact (List.append_nil _).symm
    · rw [List.intercalate_cons_of_ne_nil hnil, List.append_assoc, List.singleton_append,
        cleanKey_line _ hline]

/-! ## Layouts -/

/-- The base64 alphabet, with its padding. -/
def isBase64 (c : Char) : Bool := c.isAlphanum || c == '+' || c == '/' || c == '='

/-- What a key may be surrounded by on its line; a carriage return among it is part of the line's
ending. -/
structure Blanks where
  text : Text
  blank : ∀ c ∈ text, isBlank c = true ∧ c ≠ '\n'

/-- A part of a key. -/
structure Piece where
  text : Text
  base64 : ∀ c ∈ text, isBase64 c = true

/-- A line that contains a mark of the armour. -/
structure MarkedLine (mark : Text) where
  text : Text
  marked : mark <:+: text
  line : '\n' ∉ text

/-- A line of the body. -/
structure Row where
  before : Blanks
  piece : Piece
  after : Blanks

/-- A public key as text. A final newline is an empty line below. -/
structure KeyText where
  above : List Blanks
  armour : Option (MarkedLine beginMark × MarkedLine endMark)
  rows : List Row
  below : List Blanks

def Row.line (r : Row) : Text := r.before.text ++ r.piece.text ++ r.after.text

/-- The key that is laid out. -/
def KeyText.body (k : KeyText) : Text := k.rows.flatMap fun r => r.piece.text

/-- The lines between the blank ones. -/
def KeyText.core (k : KeyText) : List Text :=
  match k.armour with
  | some (first, last) => first.text :: k.rows.map Row.line ++ [last.text]
  | none => k.rows.map Row.line

/-- The whole text. -/
def KeyText.text (k : KeyText) : Text :=
  List.intercalate ['\n'] (k.above.map Blanks.text ++ k.core ++ k.below.map Blanks.text)

/-! ## What is kept of each line -/

theorem isArmour_of_mark {line : Text} (h : beginMark <:+: line ∨ endMark <:+: line) :
    isArmour line = true := by
  unfold isArmour
  rcases h with h | h <;> simp [h]

/-- Every line of the armour has a dash. -/
theorem isArmour_of_not_mem {line : Text} (h : '-' ∉ line) : isArmour line = false := by
  -- Both marks hold a dash, and the third rule asks for one in front
  have hmark : ∀ mark : Text, '-' ∈ mark → ¬ mark <:+: line := by
    intro mark hdash hin
    exact h (hin.subset hdash)
  have hhead : line.head? ≠ some '-' := fun hin => h (List.mem_of_head? hin)
  unfold isArmour
  rw [decide_eq_false (hmark beginMark (by decide)), decide_eq_false (hmark endMark (by decide))]
  simp [hhead]

theorem Blanks.filter (t : Blanks) : (t.text.filter fun c => !isBlank c) = [] := by
  rw [List.filter_eq_nil_iff]
  intro c hc
  simp [(t.blank c hc).1]

theorem Blanks.not_mem (t : Blanks) : '\n' ∉ t.text := fun h => (t.blank _ h).2 rfl

theorem Blanks.clean (t : Blanks) : cleanLine t.text = [] := by
  unfold cleanLine
  split
  · rfl
  · exact t.filter

/-- No character of the alphabet is a blank or a dash. -/
theorem isBase64_plain {c : Char} (h : isBase64 c = true) : isBlank c = false ∧ c ≠ '-' := by
  constructor
  · rw [Bool.eq_false_iff]
    intro hblank
    simp only [isBlank, decide_eq_true_eq, List.mem_cons, List.not_mem_nil, or_false] at hblank
    rcases hblank with rfl | rfl | rfl | rfl | rfl | rfl <;> exact absurd h (by decide)
  · rintro rfl
    exact absurd h (by decide)

theorem Blanks.no_dash (t : Blanks) : '-' ∉ t.text := by
  intro h
  exact absurd (t.blank _ h).1 (by decide)

theorem MarkedLine.clean {mark : Text} (hmark : mark = beginMark ∨ mark = endMark)
    (l : MarkedLine mark) : cleanLine l.text = [] := by
  have harmour : isArmour l.text = true := by
    refine isArmour_of_mark ?_
    rcases hmark with rfl | rfl
    · exact .inl l.marked
    · exact .inr l.marked
  rw [cleanLine, if_pos harmour]

theorem Row.not_mem (r : Row) : '\n' ∉ r.line := by
  have hpiece : '\n' ∉ r.piece.text := fun h => absurd (r.piece.base64 _ h) (by decide)
  simp [Row.line, r.before.not_mem, r.after.not_mem, hpiece]

/-- Of a line of the body the piece is kept. -/
theorem Row.clean (r : Row) : cleanLine r.line = r.piece.text := by
  -- Nothing of the line is a dash, so that it is not taken for armour
  have hdash : '-' ∉ r.piece.text := fun h => (isBase64_plain (r.piece.base64 _ h)).2 rfl
  have harmour : isArmour r.line = false := by
    refine isArmour_of_not_mem ?_
    simp [Row.line, r.before.no_dash, r.after.no_dash, hdash]
  have hpiece : (r.piece.text.filter fun c => !isBlank c) = r.piece.text := by
    rw [List.filter_eq_self]
    intro c hc
    simp [(isBase64_plain (r.piece.base64 c hc)).1]
  rw [cleanLine, harmour, Row.line, List.filter_append, List.filter_append, r.before.filter,
    r.after.filter, hpiece]
  simp

theorem KeyText.not_mem (k : KeyText) :
    ∀ line ∈ k.above.map Blanks.text ++ k.core ++ k.below.map Blanks.text, '\n' ∉ line := by
  have hblanks : ∀ (ts : List Blanks), ∀ line ∈ ts.map Blanks.text, '\n' ∉ line := by
    intro ts line h
    obtain ⟨t, -, rfl⟩ := List.mem_map.mp h
    exact t.not_mem
  have hrows : ∀ line ∈ k.rows.map Row.line, '\n' ∉ line := by
    intro line h
    obtain ⟨r, -, rfl⟩ := List.mem_map.mp h
    exact r.not_mem
  intro line h
  -- Above, in the armour and its body, and below
  rcases List.mem_append.mp h with h | hbelow
  · rcases List.mem_append.mp h with habove | hcore
    · exact hblanks _ line habove
    · unfold KeyText.core at hcore
      split at hcore
      · rename_i first last _
        rw [List.cons_append, List.mem_cons, List.mem_append, List.mem_singleton] at hcore
        rcases hcore with rfl | hrow | rfl
        · exact first.line
        · exact hrows line hrow
        · exact last.line
      · exact hrows line hcore
  · exact hblanks _ line hbelow

theorem KeyText.clean_core (k : KeyText) : k.core.flatMap cleanLine = k.body := by
  have hrows : (k.rows.map Row.line).flatMap cleanLine = k.body := by
    rw [List.flatMap_map]
    exact congrArg (List.flatMap · k.rows) (funext Row.clean)
  unfold KeyText.core
  split
  · rename_i first last _
    rw [List.cons_append, List.flatMap_cons, List.flatMap_append, List.flatMap_singleton,
      first.clean (.inl rfl), last.clean (.inr rfl), hrows, List.nil_append, List.append_nil]
  · exact hrows

/-- Whatever the layout, the key is what is left. -/
theorem cleanKey_text (k : KeyText) : cleanKey k.text = k.body := by
  have hblanks : ∀ ts : List Blanks, (ts.map Blanks.text).flatMap cleanLine = [] := by
    intro ts
    rw [List.flatMap_map, List.flatMap_eq_nil_iff]
    exact fun t _ => t.clean
  rw [KeyText.text, cleanKey_intercalate k.not_mem, List.flatMap_append, List.flatMap_append,
    hblanks, hblanks, k.clean_core, List.nil_append, List.append_nil]

/-- A key on a single line, without armour. -/
def Piece.bare (p : Piece) : KeyText where
  above := []
  armour := none
  rows := [⟨⟨[], by simp⟩, p, ⟨[], by simp⟩⟩]
  below := []

theorem Piece.bare_text (p : Piece) : p.bare.text = p.text := by
  simp [bare, KeyText.text, KeyText.core, Row.line]

/-- `clean_key` sees the key and not the layout: it gives the key, so that two texts are the same to
it exactly when they hold the same key, and what it gives it leaves as it is. -/
theorem cleanKey_layout (k k' : KeyText) :
    cleanKey k.text = k.body ∧ (cleanKey k.text = cleanKey k'.text ↔ k.body = k'.body) ∧
      cleanKey (cleanKey k.text) = cleanKey k.text := by
  have hbody : ∀ c ∈ k.body, isBase64 c = true := by
    intro c h
    obtain ⟨r, -, hc⟩ := List.mem_flatMap.mp h
    exact r.piece.base64 c hc
  refine ⟨cleanKey_text k, by rw [cleanKey_text, cleanKey_text], ?_⟩
  rw [cleanKey_text]
  -- The key alone is one of its layouts
  have hbare := cleanKey_text (Piece.bare ⟨k.body, hbody⟩)
  rw [Piece.bare_text] at hbare
  rw [hbare]
  simp [KeyText.body, Piece.bare]

example : cleanKey
      "-----BEGIN PUBLIC KEY-----\r\n MCow\t\r\nBQYD+/8=\n\n-----END PUBLIC KEY-----".toList =
    "MCowBQYD+/8=".toList := by decide

end WivrnNx
