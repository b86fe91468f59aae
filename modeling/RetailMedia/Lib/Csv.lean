import Mathlib.Data.List.Basic

/-! Comma separated values: a writer that quotes where it has to, and a reader. -/

namespace Csv

abbrev Field := List Char
abbrev Row := List Field

/-! ## Writing -/

def special : List Char := [',', '"', '\r', '\n']

def doubled (f : Field) : Field := f.flatMap fun c ↦ if c = '"' then ['"', '"'] else [c]

def quote (f : Field) : Field := '"' :: doubled f ++ ['"']

def encode (f : Field) : Field := if f.any (· ∈ special) then quote f else f

/-- A row of one empty field is told from an empty row by its quotes. -/
def writeRow (row : Row) : List Char :=
  (if row = [[]] then quote [] else [','].intercalate (row.map encode)) ++ ['\r', '\n']

def write (rows : List Row) : List Char := rows.flatMap writeRow

/-! ## Reading -/

inductive Mode
  /-- Before the first character of a row. -/
  | row
  /-- Before the first character of another field. -/
  | field
  | plain
  | quoted
  /-- After a quote within quotes. -/
  | closing
  /-- After the `\r` of a line end. -/
  | lineEnd
  deriving DecidableEq, Repr

structure Reader where
  rows : List Row := []
  done : Row := []
  text : Field := []
  mode : Mode := .row
  deriving DecidableEq, Repr

namespace Reader

def endField (r : Reader) : Reader :=
  { r with
    done := r.done ++ [r.text]
    text := []
    mode := .field }

def endRow (r : Reader) (mode : Mode) : Reader := ⟨r.rows ++ [r.done], [], [], mode⟩

def add (r : Reader) (c : Char) (mode : Mode) : Reader :=
  { r with
    text := r.text ++ [c]
    mode := mode }

/-- A character outside of quotes. -/
def outside (r : Reader) (c : Char) : Reader :=
  if c = ',' then r.endField
  else if c = '\r' then r.endField.endRow .lineEnd
  else if c = '\n' then r.endField.endRow .row
  else r.add c .plain

/-- The first character of a field. -/
def opening (r : Reader) (c : Char) : Reader :=
  if c = '"' then { r with mode := .quoted } else r.outside c

/-- The first character of a row, which has no field yet. -/
def first (r : Reader) (c : Char) : Reader :=
  if c = '\r' then r.endRow .lineEnd
  else if c = '\n' then r.endRow .row
  else r.opening c

def step (r : Reader) (c : Char) : Reader :=
  match r.mode with
  | .row => r.first c
  | .field => r.opening c
  | .plain => r.outside c
  | .quoted => if c = '"' then { r with mode := .closing } else r.add c .quoted
  | .closing => if c = '"' then r.add c .quoted else r.outside c
  | .lineEnd => if c = '\n' then { r with mode := .row } else r.first c

def run (r : Reader) (l : List Char) : Reader := l.foldl step r

/-- The rows, with the last one where it has no line end. -/
def finish (r : Reader) : List Row :=
  match r.mode with
  | .row | .lineEnd => r.rows
  | _ => r.rows ++ [r.done ++ [r.text]]

theorem run_append (r : Reader) (l m : List Char) : r.run (l ++ m) = (r.run l).run m :=
  List.foldl_append

theorem run_cons (r : Reader) (c : Char) (l : List Char) : r.run (c :: l) = (r.step c).run l := rfl

end Reader

def read (l : List Char) : List Row := (Reader.run {} l).finish

example : read (write [["a,b".toList, "".toList], [], ["".toList], ["\"\r\n".toList]]) =
    [["a,b".toList, "".toList], [], ["".toList], ["\"\r\n".toList]] := by decide

/-! ## What is written is read back -/

namespace Reader

variable {r : Reader}

theorem run_doubled (r : Reader) (f : Field) (hmode : r.mode = .quoted) :
    r.run (doubled f) = { r with text := r.text ++ f } := by
  induction f generalizing r with
  | nil =>
      show r = _
      rw [List.append_nil]
  | cons c f ih =>
      obtain ⟨rows, done, text, mode⟩ := r
      obtain rfl : mode = .quoted := hmode
      rw [doubled, List.flatMap_cons, run_append]
      by_cases hc : c = '"'
      · subst hc
        exact (ih ⟨rows, done, text ++ ['"'], .quoted⟩ rfl).trans (by simp)
      · have hstep : (⟨rows, done, text, .quoted⟩ : Reader).step c =
            ⟨rows, done, text ++ [c], .quoted⟩ := if_neg hc
        rw [if_neg hc, run_cons, hstep]
        exact (ih ⟨rows, done, text ++ [c], .quoted⟩ rfl).trans (by simp)

/-- A field in quotes, from its start. -/
theorem run_quote (rows : List Row) (done : Row) (f : Field) {mode : Mode}
    (hmode : mode = .row ∨ mode = .field) :
    (⟨rows, done, [], mode⟩ : Reader).run (quote f) = ⟨rows, done, f, .closing⟩ := by
  have hopen : (⟨rows, done, [], mode⟩ : Reader).step '"' = ⟨rows, done, [], .quoted⟩ := by
    rcases hmode with rfl | rfl <;> rfl
  rw [quote, List.cons_append, run_cons, hopen, run_append, run_doubled _ f rfl]
  rfl

theorem run_plain (rows : List Row) (done : Row) (text f : Field) (hf : ∀ c ∈ f, c ∉ special) :
    (⟨rows, done, text, .plain⟩ : Reader).run f = ⟨rows, done, text ++ f, .plain⟩ := by
  induction f generalizing text with
  | nil => rw [List.append_nil]; rfl
  | cons c f ih =>
      have hc := hf c List.mem_cons_self
      simp only [special, List.mem_cons, List.not_mem_nil, or_false, not_or] at hc
      obtain ⟨hcomma, -, hcr, hlf⟩ := hc
      have hstep : (⟨rows, done, text, .plain⟩ : Reader).step c =
          ⟨rows, done, text ++ [c], .plain⟩ := by
        show Reader.outside _ c = _
        rw [outside, if_neg hcomma, if_neg hcr, if_neg hlf]
        rfl
      rw [run_cons, hstep, ih _ fun d hd ↦ hf d (List.mem_cons_of_mem c hd), List.append_assoc]
      rfl

/-- The modes in which a field's text waits for a comma or for the end of the row. -/
def Waits (mode : Mode) : Prop := mode = .field ∨ mode = .plain ∨ mode = .closing

theorem run_encode (rows : List Row) (done : Row) (f : Field) :
    ∃ mode, Waits mode ∧
      (⟨rows, done, [], .field⟩ : Reader).run (encode f) = ⟨rows, done, f, mode⟩ := by
  unfold encode
  by_cases hspecial : f.any (· ∈ special) = true
  · rw [if_pos hspecial]
    exact ⟨.closing, .inr (.inr rfl), run_quote rows done f (.inr rfl)⟩
  · rw [if_neg hspecial]
    have hf : ∀ c ∈ f, c ∉ special := by
      intro c hc hmem
      exact hspecial (List.any_eq_true.2 ⟨c, hc, decide_eq_true hmem⟩)
    cases f with
    | nil => exact ⟨.field, .inl rfl, rfl⟩
    | cons c f =>
        refine ⟨.plain, .inr (.inl rfl), ?_⟩
        have hc := hf c List.mem_cons_self
        simp only [special, List.mem_cons, List.not_mem_nil, or_false, not_or] at hc
        obtain ⟨hcomma, hquote, hcr, hlf⟩ := hc
        have hstep : (⟨rows, done, [], .field⟩ : Reader).step c = ⟨rows, done, [c], .plain⟩ := by
          show Reader.opening _ c = _
          rw [opening, if_neg hquote, outside, if_neg hcomma, if_neg hcr, if_neg hlf]
          rfl
        rw [run_cons, hstep]
        exact run_plain rows done [c] f fun d hd ↦ hf d (List.mem_cons_of_mem c hd)

theorem run_comma {rows : List Row} {done : Row} {f : Field} {mode : Mode} (h : Waits mode) :
    (⟨rows, done, f, mode⟩ : Reader).step ',' = ⟨rows, done ++ [f], [], .field⟩ := by
  rcases h with rfl | rfl | rfl <;> rfl

theorem run_lineEnd {rows : List Row} {done : Row} {f : Field} {mode : Mode} (h : Waits mode) :
    (⟨rows, done, f, mode⟩ : Reader).run ['\r', '\n'] =
      ⟨rows ++ [done ++ [f]], [], [], .row⟩ := by
  rcases h with rfl | rfl | rfl <;> rfl

theorem run_fields (rows : List Row) (done : Row) (f : Field) (fs : Row) :
    (⟨rows, done, [], .field⟩ : Reader).run
        ([','].intercalate ((f :: fs).map encode) ++ ['\r', '\n']) =
      ⟨rows ++ [done ++ f :: fs], [], [], .row⟩ := by
  induction fs generalizing done f with
  | nil =>
      obtain ⟨mode, hmode, hrun⟩ := run_encode rows done f
      rw [List.map_cons, List.map_nil, List.intercalate_singleton, run_append, hrun,
        run_lineEnd hmode]
  | cons g fs ih =>
      obtain ⟨mode, hmode, hrun⟩ := run_encode rows done f
      have hrest := ih (done ++ [f]) g
      rw [List.map_cons] at hrest
      rw [List.map_cons, List.map_cons, List.intercalate_cons_cons, List.append_assoc,
        List.append_assoc, run_append, hrun, List.singleton_append, run_cons, run_comma hmode,
        hrest, List.append_assoc]
      rfl

/-- A row that begins with a field is read as a field is. -/
theorem run_row {rows : List Row} {l : List Char}
    (hl : ∀ c ∈ l.head?, c ≠ '\r' ∧ c ≠ '\n') (hne : l ≠ []) :
    (⟨rows, [], [], .row⟩ : Reader).run l = (⟨rows, [], [], .field⟩ : Reader).run l := by
  cases l with
  | nil => exact absurd rfl hne
  | cons c l =>
      obtain ⟨hcr, hlf⟩ := hl c rfl
      have hstep : (⟨rows, [], [], .row⟩ : Reader).step c =
          (⟨rows, [], [], .field⟩ : Reader).step c := by
        show Reader.first _ c = Reader.opening _ c
        rw [first, if_neg hcr, if_neg hlf]
        unfold opening outside
        split
        · rfl
        · rfl
      rw [run_cons, run_cons, hstep]

theorem head_encode {f : Field} (hf : f ≠ []) (l : List Char) :
    ∀ c ∈ (encode f ++ l).head?, c ≠ '\r' ∧ c ≠ '\n' := by
  intro c hc
  unfold encode at hc
  by_cases hspecial : f.any (· ∈ special) = true
  · rw [if_pos hspecial] at hc
    cases hc
    decide
  · rw [if_neg hspecial] at hc
    cases f with
    | nil => exact absurd rfl hf
    | cons d f =>
        cases hc
        constructor
        · rintro rfl
          exact hspecial rfl
        · rintro rfl
          exact hspecial rfl

theorem run_writeRow (rows : List Row) (row : Row) :
    (⟨rows, [], [], .row⟩ : Reader).run (writeRow row) = ⟨rows ++ [row], [], [], .row⟩ := by
  unfold writeRow
  by_cases hempty : row = [[]]
  · subst hempty
    rw [if_pos rfl, run_append, run_quote rows [] [] (.inl rfl),
      run_lineEnd (.inr (.inr rfl))]
    rfl
  · rw [if_neg hempty]
    match row with
    | [] => rfl
    | [f] =>
        have hf : f ≠ [] := fun h ↦ hempty (h ▸ rfl)
        rw [run_row, run_fields]
        · rfl
        · rw [List.map_cons, List.map_nil, List.intercalate_singleton]
          exact head_encode hf _
        · simp
    | [] :: g :: fs =>
        rw [run_row, run_fields]
        · rfl
        · rintro c ⟨⟩
          decide
        · simp
    | (c :: f) :: g :: fs =>
        rw [run_row, run_fields]
        · rfl
        · rw [List.map_cons, List.map_cons, List.intercalate_cons_cons, List.append_assoc,
            List.append_assoc]
          exact head_encode (List.cons_ne_nil c f) _
        · simp

theorem run_write (before rows : List Row) :
    (⟨before, [], [], .row⟩ : Reader).run (write rows) = ⟨before ++ rows, [], [], .row⟩ := by
  induction rows generalizing before with
  | nil =>
      rw [List.append_nil]
      rfl
  | cons row rows ih =>
      have hrow := run_writeRow before row
      rw [write, List.flatMap_cons, run_append, hrow]
      exact (ih (before ++ [row])).trans (by rw [List.append_assoc]; rfl)

end Reader

/-- No field can make a row or a field of its own. -/
theorem read_write (rows : List Row) : read (write rows) = rows := by
  have hrun := Reader.run_write [] rows
  show (Reader.run ⟨[], [], [], .row⟩ (write rows)).finish = rows
  rw [hrun]
  rfl

theorem write_injective {rows rows' : List Row} (h : write rows = write rows') : rows = rows' := by
  rw [← read_write rows, h, read_write]

/-- Blocks of rows that are not empty, each but the last followed by an empty row. -/
def block (rows rest : List Row) : List Row := rows ++ [] :: rest

theorem block_injective {rows rows' rest rest' : List Row} (hrows : ∀ row ∈ rows, row ≠ [])
    (hrows' : ∀ row ∈ rows', row ≠ []) (h : block rows rest = block rows' rest') :
    rows = rows' ∧ rest = rest' := by
  have htake : ∀ l m : List Row, (∀ row ∈ l, row ≠ []) →
      (block l m).takeWhile (fun row ↦ !row.isEmpty) = l := by
    intro l m hl
    unfold block
    rw [List.takeWhile_append_of_pos, List.takeWhile_cons_of_neg, List.append_nil]
    · simp
    · intro row hrow
      cases row with
      | nil => exact absurd rfl (hl [] hrow)
      | cons f row => rfl
  have hsame : rows = rows' := by
    rw [← htake rows rest hrows, h, htake rows' rest' hrows']
  subst hsame
  exact ⟨rfl, (List.cons.inj (List.append_cancel_left h)).2⟩

end Csv
