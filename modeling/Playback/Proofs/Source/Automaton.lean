import Playback.Proofs.Source.Weave

/-!
This module contains the automaton that reads a program character by character and leaves out comments and
what stands in literals, and the result that the code of lines is what it writes. Code has no comments and
no literals with anything in them, and so it is its own code.
-/

namespace Playback.Source

section Automaton

/--
What a text of several lines is read as: its characters and the ends of its lines.
-/
inductive Symbol where
  | char (c : Char)
  | lineEnd
deriving DecidableEq

/--
What the automaton has to know of the text in front of the next symbol. A slash in the code may start a
comment and is written only when it turns out that it does not.
-/
inductive Reading where
  | code
  /-- Behind a slash in the code. -/
  | slash
  | lineComment
  | blockComment
  /-- Behind an asterisk in a block comment. -/
  | asterisk
  | literal (quote : Char)
  /-- Behind a backslash that hides the next character of a literal. -/
  | escaped (quote : Char)
deriving DecidableEq

/--
Go on in the code with a symbol: a slash waits for what follows it, a quote is written twice and starts a
literal, and everything else is copied.
-/
def Reading.inCode : Symbol → Reading × List Symbol
  | .lineEnd => (.code, [.lineEnd])
  | .char c =>
    if c = '/' then (.slash, [])
    else if c = '"' ∨ c = '\'' then (.literal c, [.char c, .char c])
    else (.code, [.char c])

/--
The state behind a symbol, and what is written there. The end of a line is written always. It ends all but
block comments.
-/
def Reading.next : Reading → Symbol → Reading × List Symbol
  | code, x => inCode x
  | slash, .char c =>
    if c = '/' then (.lineComment, [])
    else if c = '*' then (.blockComment, [])
    else ((inCode (.char c)).1, .char '/' :: (inCode (.char c)).2)
  | slash, .lineEnd => (.code, [.char '/', .lineEnd])
  | lineComment, .char _ => (.lineComment, [])
  | blockComment, .char c => (if c = '*' then .asterisk else .blockComment, [])
  | blockComment, .lineEnd => (.blockComment, [.lineEnd])
  | asterisk, .char c =>
    (if c = '/' then .code else if c = '*' then .asterisk else .blockComment, [])
  | asterisk, .lineEnd => (.blockComment, [.lineEnd])
  | literal quote, .char c =>
    (if c = '\\' then .escaped quote else if c = quote then .code else .literal quote, [])
  | escaped quote, .char _ => (.literal quote, [])
  | _, .lineEnd => (.code, [.lineEnd])

def Reading.run : Reading → List Symbol → List Symbol
  | _, [] => []
  | r, x :: xs => (r.next x).2 ++ run (r.next x).1 xs

def symbols (lines : List (List Char)) : List Symbol :=
  lines.flatMap fun line => line.map Symbol.char ++ [.lineEnd]

def linesOf : List Symbol → List (List Char)
  | [] => []
  | .lineEnd :: xs => [] :: linesOf xs
  | .char c :: xs => (c :: (linesOf xs).headD []) :: (linesOf xs).tail

theorem linesOf_append_lineEnd (line : List Char) (xs : List Symbol) :
    linesOf (line.map Symbol.char ++ .lineEnd :: xs) = line :: linesOf xs := by
  induction line with
  | nil => rfl
  | cons c line ih =>
    rw [List.map_cons, List.cons_append, linesOf, ih]
    rfl

def Mode.reading : Mode → Reading
  | .code => .code
  | .blockComment => .blockComment
  | .literal quote => .literal quote

theorem run_lineComment (line : List Char) (xs : List Symbol) :
    Reading.lineComment.run (line.map Symbol.char ++ .lineEnd :: xs)
      =
    .lineEnd :: Reading.code.run xs := by
  induction line with
  | nil => rfl
  | cons c line ih => exact ih

/-
An asterisk in a block comment matters only in front of a slash.
-/
theorem run_asterisk {x : Symbol} (hx : x ≠ .char '/') (xs : List Symbol) :
    Reading.asterisk.run (x :: xs) = Reading.blockComment.run (x :: xs) := by
  have hnext : Reading.asterisk.next x = Reading.blockComment.next x := by
    cases x with
    | lineEnd => rfl
    | char c =>
      have hc : c ≠ '/' := by
        rintro rfl
        exact hx rfl
      simp [Reading.next, hc]
  rw [Reading.run, Reading.run, hnext]

/-
A slash in the code that starts no comment is written.
-/
theorem run_slash {x : Symbol} (hslash : x ≠ .char '/') (hasterisk : x ≠ .char '*') (xs : List Symbol) :
    Reading.slash.run (x :: xs) = .char '/' :: Reading.code.run (x :: xs) := by
  cases x with
  | lineEnd => rfl
  | char c =>
    have hc : c ≠ '/' ∧ c ≠ '*' := by
      constructor <;> rintro rfl <;> contradiction
    simp [Reading.run, Reading.next, hc]

/-
What stands on a line with its end begins with some symbol, and only a character of the line can be one.
-/
theorem exists_first_symbol (line : List Char) (xs : List Symbol) :
    ∃ x more, line.map Symbol.char ++ .lineEnd :: xs = x :: more
      ∧ ∀ c, x = .char c → ∃ rest, line = c :: rest := by
  cases line with
  | nil => exact ⟨.lineEnd, xs, rfl, by simp⟩
  | cons c rest => exact ⟨.char c, rest.map Symbol.char ++ .lineEnd :: xs, rfl, by simp⟩

/-
On one line, the automaton writes the code of the line, and a block comment goes on behind it if it is still
open.
-/
theorem run_line (m : Mode) (line : List Char) (xs : List Symbol) :
    m.reading.run (line.map Symbol.char ++ .lineEnd :: xs)
      =
    (codeOf m line).1.map Symbol.char
      ++ .lineEnd :: (if (codeOf m line).2 then Reading.blockComment else Reading.code).run xs := by
  -- The cases are those of the scan. Where it takes one character, so does the automaton, and `ih` does the
  -- rest.
  fun_induction codeOf m line with
  | case1 => rfl
  | case2 m hm =>
    cases m with
    | code => rfl
    | blockComment => exact absurd rfl hm
    | literal quote => rfl
  | case3 cs ih => exact ih
  | case4 c cs hc ih =>
    by_cases hasterisk : c = '*'
    · -- Behind the asterisk, the comment goes on as it does everywhere else.
      rcases exists_first_symbol cs xs with ⟨x, more, hcs, hx⟩
      have hslash : x ≠ .char '/' := fun heq => (hx '/' heq).elim fun rest hrest => hc rest hasterisk hrest
      rw [Mode.reading, hcs] at ih
      rw [hasterisk, ← ih, ← run_asterisk hslash, ← hcs]
      rfl
    · have hnext : Reading.blockComment.next (.char c) = (.blockComment, []) := by
        simp [Reading.next, hasterisk]
      rw [List.map_cons, List.cons_append, Mode.reading, Reading.run, hnext]
      exact ih
  | case5 => rfl
  | case6 quote c cs ih => exact ih
  | case7 quote c cs hlast hhidden ih =>
    -- No backslash is in front of the next character, so the literal is closed here or goes on.
    have hbackslash : c ≠ '\\' := by
      intro heq
      cases cs with
      | nil => exact hlast heq rfl
      | cons d cs => exact hhidden d cs heq rfl
    have hnext : (Reading.literal quote).next (.char c)
        = ((if c == quote then Mode.code else Mode.literal quote).reading, []) := by
      by_cases hquote : c = quote <;> simp [Reading.next, Mode.reading, hbackslash, hquote]
      simpa [← hquote] using hbackslash
    rw [List.map_cons, List.cons_append, Mode.reading, Reading.run, hnext]
    exact ih
  | case8 cs => exact run_lineComment cs xs
  | case9 cs ih => exact ih
  | case10 c cs hline hblock hquote rest isOpen hcode ih =>
    rw [hcode] at ih
    have hc : c ≠ '/' ∧ (c = '"' ∨ c = '\'') := by
      rw [Bool.or_eq_true, beq_iff_eq, beq_iff_eq] at hquote
      refine ⟨?_, hquote⟩
      rintro rfl
      simp at hquote
    have hnext : Reading.code.next (.char c) = (.literal c, [.char c, .char c]) := by
      rw [Reading.next, Reading.inCode, if_neg hc.1, if_pos hc.2]
    rw [List.map_cons, List.cons_append, Mode.reading, Reading.run, hnext]
    exact congrArg (.char c :: .char c :: ·) ih
  | case11 c cs hline hblock hquote rest isOpen hcode ih =>
    rw [hcode] at ih
    by_cases hslash : c = '/'
    · -- The slash is written when the next symbol shows that it starts no comment.
      rcases exists_first_symbol cs xs with ⟨x, more, hcs, hx⟩
      have hline : x ≠ .char '/' := fun heq => (hx '/' heq).elim fun rest hrest => hline rest hslash hrest
      have hblock : x ≠ .char '*' := fun heq => (hx '*' heq).elim fun rest hrest => hblock rest hslash hrest
      have hrun := run_slash hline hblock more
      rw [← hcs] at hrun
      rw [hslash]
      exact hrun.trans (congrArg (.char '/' :: ·) ih)
    · have hnext : Reading.code.next (.char c) = (.code, [.char c]) := by
        rw [Bool.or_eq_true, beq_iff_eq, beq_iff_eq] at hquote
        rw [Reading.next, Reading.inCode, if_neg hslash, if_neg hquote]
      rw [List.map_cons, List.cons_append, Mode.reading, Reading.run, hnext]
      exact congrArg (.char c :: ·) ih

theorem run_symbols (inComment : Bool) (lines : List (List Char)) :
    codeLines inComment lines
      =
    (linesOf ((if inComment then Reading.blockComment else Reading.code).run (symbols lines))).map
      Text.trim := by
  induction lines generalizing inComment with
  | nil => rfl
  | cons line lines ih =>
    have hreading : (if inComment then Reading.blockComment else Reading.code)
        = (if inComment then Mode.blockComment else Mode.code).reading := by cases inComment <;> rfl
    have hsymbols : symbols (line :: lines) = line.map Symbol.char ++ .lineEnd :: symbols lines := by
      simp [symbols]
    rw [codeLines, hsymbols, hreading, run_line, linesOf_append_lineEnd, List.map_cons, ← ih]

end Automaton

section Stripped

/--
Whether a text has no comments, and no literals with anything in them.
-/
inductive Stripped : List Char → Prop where
  | nil : Stripped []
  | char {c : Char} {cs : List Char} (hquote : c ≠ '"' ∧ c ≠ '\'')
      (hslash : c = '/' → ∀ d ∈ cs.head?, d ≠ '/' ∧ d ≠ '*') (h : Stripped cs) : Stripped (c :: cs)
  | literal {quote : Char} {cs : List Char} (hquote : quote = '"' ∨ quote = '\'') (h : Stripped cs) :
      Stripped (quote :: quote :: cs)

theorem codeOf_char {c : Char} {cs : List Char} (hquote : c ≠ '"' ∧ c ≠ '\'')
    (hslash : c = '/' → ∀ d ∈ cs.head?, d ≠ '/' ∧ d ≠ '*') :
    codeOf .code (c :: cs) = (c :: (codeOf .code cs).1, (codeOf .code cs).2) := by
  rw [codeOf, if_neg (by simp [hquote])]
  · rintro rest hc rfl
    exact (hslash hc '/' rfl).1 rfl
  · rintro rest hc rfl
    exact (hslash hc '*' rfl).2 rfl

theorem codeOf_quote {quote : Char} (hquote : quote = '"' ∨ quote = '\'') (cs : List Char) :
    codeOf .code (quote :: cs)
      =
    (quote :: quote :: (codeOf (.literal quote) cs).1, (codeOf (.literal quote) cs).2) := by
  have hslash : quote ≠ '/' := by rcases hquote with rfl | rfl <;> decide
  rw [codeOf, if_pos (by simpa using hquote)]
  · exact fun _ hc => absurd hc hslash
  · exact fun _ hc => absurd hc hslash

theorem Stripped.codeOf_eq {cs : List Char} (h : Stripped cs) : codeOf .code cs = (cs, false) := by
  induction h with
  | nil => rfl
  | char hquote hslash _ ih => rw [codeOf_char hquote hslash, ih]
  | @literal quote cs hquote _ ih =>
    have hclosed : codeOf (.literal quote) (quote :: cs) = codeOf .code cs := by
      have hbackslash : quote ≠ '\\' := by rcases hquote with rfl | rfl <;> decide
      rw [codeOf, if_pos (by simp)]
      · exact fun hc => absurd hc hbackslash
      · exact fun _ _ hc => absurd hc hbackslash
    rw [codeOf_quote hquote, hclosed, ih]

/-
Where no comment starts, the code begins like the text.
-/
theorem head?_codeOf {cs : List Char} (hline : ∀ rest, cs ≠ '/' :: '/' :: rest)
    (hblock : ∀ rest, cs ≠ '/' :: '*' :: rest) : (codeOf .code cs).1.head? = cs.head? := by
  cases cs with
  | nil => rfl
  | cons c cs =>
    rw [codeOf]
    · split <;> rfl
    · rintro rest rfl rfl
      exact hline rest rfl
    · rintro rest rfl rfl
      exact hblock rest rfl

theorem stripped_codeOf (m : Mode) (line : List Char) : Stripped (codeOf m line).1 := by
  fun_induction codeOf m line with
  | case1 => exact .nil
  | case2 => exact .nil
  | case3 cs ih => exact ih
  | case4 c cs hc ih => exact ih
  | case5 => exact .nil
  | case6 quote c cs ih => exact ih
  | case7 quote c cs hlast hhidden ih => exact ih
  | case8 cs => exact .nil
  | case9 cs ih => exact ih
  | case10 c cs hline hblock hquote rest isOpen hcode ih =>
    rw [hcode] at ih
    exact .literal (by simpa using hquote) ih
  | case11 c cs hline hblock hquote rest isOpen hcode ih =>
    rw [hcode] at ih
    refine .char (by simpa using hquote) ?_ ih
    -- The slash is no part of a comment sign, and what follows it in the code follows it in the line.
    rintro rfl d hd
    have hhead : rest.head? = cs.head? := by
      cases cs with
      | nil =>
        cases hcode
        rfl
      | cons e cs =>
        have hrest := @head?_codeOf (e :: cs)
        rw [hcode] at hrest
        apply hrest
        · rintro rest ⟨rfl⟩
          exact hline _ rfl rfl
        · rintro rest ⟨rfl⟩
          exact hline _ rfl rfl
    rw [hhead] at hd
    cases cs with
    | nil => contradiction
    | cons e cs =>
      cases hd
      constructor
      · rintro rfl
        exact hline cs rfl rfl
      · rintro rfl
        exact hblock cs rfl rfl

theorem Stripped.of_blank_append {front cs : List Char} (hfront : ∀ c ∈ front, Text.isBlank c = true)
    (h : Stripped (front ++ cs)) : Stripped cs := by
  induction front with
  | nil => exact h
  | cons c front ih =>
    rw [List.forall_mem_cons] at hfront
    generalize htext : c :: front ++ cs = text at h
    cases h with
    | nil => contradiction
    | char _ _ h =>
      rw [List.cons_append, List.cons.injEq] at htext
      rw [← htext.2] at h
      exact ih hfront.2 h
    | literal hquote _ =>
      rw [List.cons_append, List.cons.injEq] at htext
      have hblank := hfront.1
      rw [htext.1] at hblank
      rcases hquote with rfl | rfl <;> contradiction

theorem Stripped.of_append_blank {cs back : List Char} (hback : ∀ c ∈ back, Text.isBlank c = true)
    (h : Stripped (cs ++ back)) : Stripped cs := by
  generalize htext : cs ++ back = text at h
  induction h generalizing cs with
  | nil =>
    rw [List.append_eq_nil_iff] at htext
    rw [htext.1]
    exact .nil
  | @char c rest hquote hslash _ ih =>
    cases cs with
    | nil => exact .nil
    | cons d cs =>
      rw [List.cons_append, List.cons.injEq] at htext
      rcases htext with ⟨rfl, rfl⟩
      refine .char hquote ?_ (ih rfl)
      intro hd e he
      exact hslash hd e (by rw [List.head?_append, Option.mem_def.mp he]; rfl)
  | @literal quote rest hquote _ ih =>
    match cs, htext with
    | [], _ => exact .nil
    | [_], htext =>
      -- The second quote would be white space.
      cases htext
      have hblank := hback quote (by simp)
      rcases hquote with rfl | rfl <;> contradiction
    | _ :: _ :: cs, htext =>
      cases htext
      exact .literal hquote (ih rfl)

theorem Stripped.trim {cs : List Char} (h : Stripped cs) : Stripped (Text.trim cs) := by
  rcases Text.exists_trim_append cs with ⟨front, back, hfront, hback, hcs⟩
  rw [hcs] at h
  exact (h.of_blank_append hfront).of_append_blank hback

theorem stripped_codeLines (inComment : Bool) (lines : List (List Char)) :
    ∀ code ∈ codeLines inComment lines, Stripped code ∧ Text.trim code = code := by
  induction lines generalizing inComment with
  | nil => simp [codeLines]
  | cons line lines ih =>
    rw [codeLines, List.forall_mem_cons]
    exact ⟨⟨(stripped_codeOf _ line).trim, Text.trim_trim _⟩, ih _⟩

theorem codeLines_of_stripped {lines : List (List Char)}
    (h : ∀ line ∈ lines, Stripped line ∧ Text.trim line = line) : codeLines false lines = lines := by
  induction lines with
  | nil => rfl
  | cons line lines ih =>
    rw [List.forall_mem_cons] at h
    rw [codeLines, if_neg (by simp), h.1.1.codeOf_eq]
    dsimp only
    rw [h.1.2, ih h.2]

end Stripped

/--
The code of lines is what the automaton writes for them, line by line and trimmed. Code is its own code.
-/
theorem codeLines_eq_run (lines : List (List Char)) :
    codeLines false lines = (linesOf (Reading.code.run (symbols lines))).map Text.trim
      ∧ codeLines false (codeLines false lines) = codeLines false lines :=
  ⟨run_symbols false lines, codeLines_of_stripped (stripped_codeLines false lines)⟩

/-
An asterisk that belongs to the opening sign closes no comment, and a comment sign in a literal opens none.
-/
example :
    codeLines false ["a /*/ b".toList, " c */ d = \"/* \\\" */\"; // e".toList, "f = '".toList]
      =
    ["a".toList, "d = \"\";".toList, "f = ''".toList] := by
  decide +kernel

end Playback.Source
