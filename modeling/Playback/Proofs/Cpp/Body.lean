import Playback.Proofs.Cpp.Entry
import Playback.Proofs.Cpp.Scopes
import Playback.Proofs.Text.Spacing

/-!
This module contains what a rewrite reads of the body of a structure, over all lines that it stands on: the
text between the braces, without what stands in braces of its own.
-/

namespace Playback.Cpp

open Source

section Depth

/--
How many braces are open behind a text, given how many are open in front of it. There is no answer for a
text that closes more of them than there are.
-/
def openBraces (depth : Nat) : List Char → Option Nat
  | [] => some depth
  | c :: cs =>
    if c == '{' then openBraces (depth + 1) cs
    else if c == '}' then if depth = 0 then none else openBraces (depth - 1) cs
    else openBraces depth cs

/--
What is read of a text in the body of a structure, where the given number of braces is open inside of the
body. What stands in braces is left out, and a semicolon takes the place of the braces.
-/
def memberText (depth : Nat) : List Char → List Char
  | [] => []
  | c :: cs =>
    if c == '{' then memberText (depth + 1) cs
    else if c == '}' then if depth = 1 then ';' :: memberText 0 cs else memberText (depth - 1) cs
    else if depth = 0 then c :: memberText 0 cs
    else memberText depth cs

variable {depth after : Nat} {front rest cs : List Char} {c : Char}

theorem openBraces_append (depth : Nat) (front rest : List Char) :
    openBraces depth (front ++ rest) = (openBraces depth front).bind (openBraces · rest) := by
  induction front generalizing depth with
  | nil => rfl
  | cons c front ih =>
    rw [List.cons_append, openBraces, openBraces, ih, ih, ih]
    split
    · rfl
    · split
      · split <;> rfl
      · rfl

theorem openBraces_other (hopen : c ≠ '{') (hclose : c ≠ '}') (depth : Nat) (cs : List Char) :
    openBraces depth (c :: cs) = openBraces depth cs := by
  rw [openBraces, if_neg (by simpa using hopen), if_neg (by simpa using hclose)]

/-
What the first character of a text does, if no brace is closed too many.
-/
theorem openBraces_cons (h : openBraces depth (c :: cs) = some after) :
    (c = '{' ∧ openBraces (depth + 1) cs = some after)
      ∨ (∃ pred, c = '}' ∧ depth = pred + 1 ∧ openBraces pred cs = some after)
      ∨ (c ≠ '{' ∧ c ≠ '}' ∧ openBraces depth cs = some after) := by
  by_cases hopen : c = '{'
  · subst hopen
    exact .inl ⟨rfl, h⟩
  · by_cases hclose : c = '}'
    · subst hclose
      cases depth with
      | zero => contradiction
      | succ pred => exact .inr (.inl ⟨pred, rfl, rfl, h⟩)
    · rw [openBraces_other hopen hclose] at h
      exact .inr (.inr ⟨hopen, hclose, h⟩)

theorem memberText_open (depth : Nat) (cs : List Char) :
    memberText depth ('{' :: cs) = memberText (depth + 1) cs :=
  rfl

theorem memberText_close (depth : Nat) (cs : List Char) :
    memberText (depth + 1) ('}' :: cs) = if depth = 0 then ';' :: memberText 0 cs else memberText depth cs := by
  rw [memberText, if_neg (by decide), if_pos (by decide)]
  simp

theorem memberText_other (hopen : c ≠ '{') (hclose : c ≠ '}') (depth : Nat) (cs : List Char) :
    memberText depth (c :: cs) = if depth = 0 then c :: memberText 0 cs else memberText depth cs := by
  rw [memberText, if_neg (by simpa using hopen), if_neg (by simpa using hclose)]

theorem openBraces_plain (hopen : '{' ∉ cs) (hclose : '}' ∉ cs) (depth : Nat) :
    openBraces depth cs = some depth := by
  induction cs with
  | nil => rfl
  | cons c cs ih =>
    rw [List.mem_cons, not_or] at hopen hclose
    rw [openBraces_other (Ne.symm hopen.1) (Ne.symm hclose.1), ih hopen.2 hclose.2]

theorem memberText_plain (hopen : '{' ∉ cs) (hclose : '}' ∉ cs) : memberText 0 cs = cs := by
  induction cs with
  | nil => rfl
  | cons c cs ih =>
    rw [List.mem_cons, not_or] at hopen hclose
    rw [memberText_other (Ne.symm hopen.1) (Ne.symm hclose.1), if_pos rfl, ih hopen.2 hclose.2]

theorem memberText_append (h : openBraces depth front = some after) (rest : List Char) :
    memberText depth (front ++ rest) = memberText depth front ++ memberText after rest := by
  induction front generalizing depth with
  | nil =>
    cases h
    rfl
  | cons c front ih =>
    rw [List.cons_append]
    rcases openBraces_cons h with ⟨rfl, hfront⟩ | ⟨pred, rfl, rfl, hfront⟩ | ⟨hopen, hclose, hfront⟩
    · rw [memberText_open, memberText_open, ih hfront]
    · rw [memberText_close, memberText_close, ih hfront]
      split
      · next hpred =>
        rw [hpred] at hfront
        rw [ih hfront, List.cons_append]
      · rfl
    · rw [memberText_other hopen hclose, memberText_other hopen hclose, ih hfront]
      split
      · next hdepth =>
        rw [hdepth] at hfront
        rw [ih hfront, List.cons_append]
      · rfl

/-
Inside of one more brace, a text leaves one more brace open, and nothing is read of it.
-/
theorem openBraces_succ (h : openBraces depth cs = some after) :
    openBraces (depth + 1) cs = some (after + 1) := by
  induction cs generalizing depth with
  | nil =>
    cases h
    rfl
  | cons c cs ih =>
    rcases openBraces_cons h with ⟨rfl, hrest⟩ | ⟨pred, rfl, rfl, hrest⟩ | ⟨hopen, hclose, hrest⟩
    · exact ih hrest
    · exact ih hrest
    · rw [openBraces_other hopen hclose, ih hrest]

theorem memberText_succ (h : openBraces depth cs = some after) : memberText (depth + 1) cs = [] := by
  induction cs generalizing depth with
  | nil => rfl
  | cons c cs ih =>
    rcases openBraces_cons h with ⟨rfl, hrest⟩ | ⟨pred, rfl, rfl, hrest⟩ | ⟨hopen, hclose, hrest⟩
    · exact ih hrest
    · rw [memberText_close, if_neg (by simp), ih hrest]
    · rw [memberText_other hopen hclose, if_neg (by simp), ih hrest]

theorem mem_of_mem_memberText (h : c ∈ memberText depth cs) : c ∈ cs ∨ c = ';' := by
  induction cs generalizing depth with
  | nil => contradiction
  | cons d cs ih =>
    have hrest : ∀ {depth}, c ∈ memberText depth cs → c ∈ d :: cs ∨ c = ';' :=
      fun h => (ih h).imp_left (List.mem_cons_of_mem d)
    rw [memberText] at h
    split at h
    · exact hrest h
    · split at h
      · split at h
        · rcases List.mem_cons.mp h with rfl | h
          · exact .inr rfl
          · exact hrest h
        · exact hrest h
      · split at h
        · rcases List.mem_cons.mp h with rfl | h
          · exact .inl List.mem_cons_self
          · exact hrest h
        · exact hrest h

/-
White space opens and closes no braces.
-/
theorem openBraces_blank (hc : Text.isBlank c = true) (depth : Nat) (cs : List Char) :
    openBraces depth (c :: cs) = openBraces depth cs := by
  apply openBraces_other <;> rintro rfl <;> contradiction

theorem memberText_blank (hc : Text.isBlank c = true) (depth : Nat) (cs : List Char) :
    memberText depth (c :: cs) = if depth = 0 then c :: memberText 0 cs else memberText depth cs := by
  apply memberText_other <;> rintro rfl <;> contradiction

/-
What is read of a line with its end, and of what follows it.
-/
theorem exists_memberText_line (h : openBraces depth (front ++ ' ' :: rest) = some after) :
    ∃ middle, openBraces depth front = some middle ∧ openBraces middle rest = some after
      ∧ memberText depth (front ++ ' ' :: rest)
        = memberText depth (front ++ [' ']) ++ memberText middle rest := by
  rw [openBraces_append, Option.bind_eq_some_iff] at h
  rcases h with ⟨middle, hfront, hrest⟩
  rw [openBraces_blank rfl] at hrest
  have hend : openBraces depth (front ++ [' ']) = some middle := by
    rw [openBraces_append, hfront]
    rfl
  refine ⟨middle, hfront, hrest, ?_⟩
  rw [← memberText_append hend, List.append_assoc, List.singleton_append]

theorem openBraces_squeezeFrom (afterBlank : Bool) (depth : Nat) (cs : List Char) :
    openBraces depth (Text.squeezeFrom afterBlank cs) = openBraces depth cs := by
  induction cs generalizing afterBlank depth with
  | nil => rfl
  | cons c cs ih =>
    rw [Text.squeezeFrom]
    split
    · next hc =>
      rw [openBraces_blank hc]
      split
      · exact ih true depth
      · exact (openBraces_blank rfl depth _).trans (ih true depth)
    · rw [openBraces, openBraces, ih, ih, ih]

/-
What is read of a text does not depend on its white space, up to white space.
-/
theorem squeezeFrom_memberText {afterBlank squeezed : Bool}
    (h : squeezed = true → depth = 0 → afterBlank = true) (cs : List Char) :
    Text.squeezeFrom afterBlank (memberText depth (Text.squeezeFrom squeezed cs))
      =
    Text.squeezeFrom afterBlank (memberText depth cs) := by
  -- If the text is behind a space that has been written already, the space is read outside of braces only.
  induction cs generalizing afterBlank squeezed depth with
  | nil => rfl
  | cons c cs ih =>
    rw [Text.squeezeFrom]
    split
    · next hc =>
      rw [memberText_blank hc]
      cases squeezed with
      | true =>
        rw [if_pos rfl]
        split
        · next hdepth =>
          subst hdepth
          rw [h rfl rfl, Text.squeezeFrom_blank hc]
          exact ih fun _ _ => rfl
        · exact ih h
      | false =>
        rw [if_neg (by simp), memberText_blank Text.isBlank_space]
        split
        · rw [Text.squeezeFrom, Text.squeezeFrom, if_pos Text.isBlank_space, if_pos hc,
            ih fun _ _ => rfl]
        · next hdepth => exact ih fun _ hzero => absurd hzero hdepth
    · next hc =>
      rw [Bool.not_eq_true] at hc
      have hfalse : ∀ {depth : Nat} {afterBlank : Bool}, false = true → depth = 0 → afterBlank = true :=
        fun h => absurd h (by simp)
      rw [memberText, memberText]
      split
      · exact ih hfalse
      · split
        · split
          · rw [Text.squeezeFrom_solid (by decide), Text.squeezeFrom_solid (by decide), Text.squeeze,
              Text.squeeze, ih hfalse]
          · exact ih hfalse
        · split
          · rw [Text.squeezeFrom_solid hc, Text.squeezeFrom_solid hc, Text.squeeze, Text.squeeze, ih hfalse]
          · exact ih hfalse

end Depth

section Braces

def StructHead.read (head : StructHead) (text : List Char) : StructHead :=
  { head with body := head.body ++ text }

/--
The scopes in the body of a structure, where the given number of braces is open inside of the body.
-/
def inStruct (head : StructHead) (depth : Nat) : List Scope :=
  List.replicate depth { kind := .expression } ++ [{ kind := .struct head }]

variable {lineNo depth after : Nat} {atTop : Bool} {lastCode before inside : List Char} {b : Braces}
  {head : StructHead}

theorem StructHead.read_nil (head : StructHead) : head.read [] = head := by
  rw [read, List.append_nil]

theorem StructHead.read_read (head : StructHead) (front rest : List Char) :
    (head.read front).read rest = head.read (front ++ rest) := by
  rw [read, read, read, List.append_assoc]

theorem inStruct_succ (head : StructHead) (depth : Nat) :
    inStruct head (depth + 1) = { kind := .expression } :: inStruct head depth :=
  rfl

theorem head?_inStruct (head : StructHead) (depth : Nat) :
    (inStruct head depth).head?.any (·.kind.isBlock) = false := by
  cases depth <;> rfl

theorem addToBody_inStruct (text : List Char) (head : StructHead) (depth : Nat) :
    addToBody text (inStruct head depth)
      =
    if depth = 0 then inStruct (head.read text) depth else inStruct head depth := by
  cases depth <;> rfl

theorem openScope_inStruct (header : List Char) :
    openScope atTop (openedKind lineNo (inStruct head depth) lastCode header) header :: inStruct head depth
      =
    inStruct head (depth + 1) := by
  cases depth <;> rfl

theorem exists_followBraces_char {c : Char} (hb : b.scopes = inStruct head depth)
    (h : openBraces depth [c] = some after) (rest : List Char) :
    ∃ next, followBraces lineNo atTop lastCode before b (c :: rest)
        = followBraces lineNo atTop lastCode (c :: before) next rest
      ∧ next.scopes = inStruct (head.read (memberText depth [c])) after ∧ next.closed = b.closed := by
  rw [followBraces]
  refine ⟨_, rfl, ?_⟩
  rcases openBraces_cons h with ⟨rfl, hafter⟩ | ⟨pred, rfl, rfl, hafter⟩ | ⟨hopen, hclose, hafter⟩
  · cases hafter
    rw [if_pos (by decide), hb]
    dsimp only
    rw [openScope_inStruct, memberText_open, memberText, StructHead.read_nil]
    exact ⟨rfl, rfl⟩
  · cases hafter
    rw [if_neg (by decide), if_pos (by decide), hb, inStruct_succ]
    dsimp only
    rw [addToBody_inStruct, memberText_close, memberText, memberText]
    split
    · exact ⟨rfl, rfl⟩
    · rw [StructHead.read_nil]
      exact ⟨rfl, rfl⟩
  · cases hafter
    rw [if_neg (by simpa using hopen), if_neg (by simpa using hclose), hb]
    dsimp only
    rw [addToBody_inStruct, memberText_other hopen hclose, memberText, memberText]
    split
    · exact ⟨rfl, rfl⟩
    · rw [StructHead.read_nil]
      exact ⟨rfl, rfl⟩

/-
In the body of a structure, only the text of its members and the open braces change.
-/
theorem exists_followBraces_inside (hb : b.scopes = inStruct head depth)
    (h : openBraces depth inside = some after) (rest : List Char) :
    ∃ next, followBraces lineNo atTop lastCode before b (inside ++ rest)
        = followBraces lineNo atTop lastCode (inside.reverse ++ before) next rest
      ∧ next.scopes = inStruct (head.read (memberText depth inside)) after ∧ next.closed = b.closed := by
  induction inside generalizing before b head depth with
  | nil =>
    cases h
    exact ⟨b, rfl, by rw [memberText, StructHead.read_nil, hb], rfl⟩
  | cons c inside ih =>
    have hsplit : c :: inside = [c] ++ inside := rfl
    rw [hsplit, openBraces_append, Option.bind_eq_some_iff] at h
    rcases h with ⟨middle, hchar, hinside⟩
    rcases exists_followBraces_char hb hchar (inside ++ rest) with ⟨first, hfirst, hscopes, hclosed⟩
    rcases ih hscopes hinside with ⟨next, hnext, hafter, hsame⟩
    refine ⟨next, ?_, ?_, hsame.trans hclosed⟩
    · rw [List.cons_append, hfirst, hnext, List.reverse_cons, List.append_assoc, List.singleton_append]
    · rw [hafter, StructHead.read_read, hsplit, memberText_append hchar]

/-
What has been closed within a line stays closed.
-/
theorem closed_isPrefix (b : Braces) (code : List Char) :
    b.closed <+: (followBraces lineNo atTop lastCode before b code).closed := by
  induction code generalizing before b with
  | nil => exact List.prefix_refl _
  | cons c code ih =>
    rw [followBraces]
    refine List.IsPrefix.trans ?_ (ih _)
    split
    · exact List.prefix_refl _
    · split
      · split
        · exact List.prefix_refl _
        · dsimp only
          split
          · exact List.prefix_append _ _
          · exact List.prefix_refl _
      · exact List.prefix_refl _

theorem followBraces_inside (hb : b.scopes = inStruct head depth) (h : openBraces depth inside = some after) :
    (followBraces lineNo atTop lastCode before b inside).scopes
        = inStruct (head.read (memberText depth (inside ++ [' ']))) after
      ∧ (followBraces lineNo atTop lastCode before b inside).closed = b.closed := by
  rcases exists_followBraces_inside hb h [] with ⟨next, hnext, hscopes, hclosed⟩
  rw [List.append_nil, followBraces, hscopes, addToBody_inStruct] at hnext
  have hspace : memberText after [' '] = if after = 0 then [' '] else [] := rfl
  rw [hnext, memberText_append h, hspace]
  refine ⟨?_, hclosed⟩
  dsimp only
  split
  · rw [StructHead.read_read]
  · rw [List.append_nil]

/-
The closing brace of a structure closes it with all that has been read of it.
-/
theorem structs_closing {name : String} (hb : b.scopes = inStruct head depth) (hclosed : b.closed = [])
    (hname : head.name = some name) (h : openBraces depth inside = some 0) (trailer : List Char) :
    [{ name, fields := structFields (head.body ++ memberText depth inside) }]
      <+: (followBraces lineNo atTop lastCode before b (inside ++ '}' :: trailer)).closed.filterMap
        fun entry => closeStruct? entry.1 entry.2 := by
  have hclose : closeStruct? (head.read (memberText depth inside)) trailer
      = some { name, fields := structFields (head.body ++ memberText depth inside) } := by
    unfold closeStruct? StructHead.read
    dsimp only
    rw [hname]
    rfl
  rcases exists_followBraces_inside hb h ('}' :: trailer) with ⟨next, hnext, hscopes, hsame⟩
  rw [hnext, followBraces, if_neg (by decide), if_pos (by decide), hscopes]
  generalize hlater : followBraces _ _ _ _ _ trailer = later
  have hprefix : [(head.read (memberText depth inside), trailer)] <+: later.closed := by
    rw [← hlater]
    refine List.IsPrefix.trans ?_ (closed_isPrefix _ _)
    dsimp only [inStruct, List.replicate, List.nil_append]
    rw [hsame, hclosed]
    exact List.prefix_refl _
  have hall := hprefix.filterMap fun entry => closeStruct? entry.1 entry.2
  rwa [List.filterMap_cons, hclose] at hall

/-
A brace at the top of a file opens a structure if its header is the one of a structure.
-/
theorem exists_followBraces_opening (atTop : Bool) {front header : List Char} (hb : b.scopes = [])
    (hheader : Introduces lastCode front header) (hkind : topLevelKind lineNo lastCode header = .struct head)
    (rest : List Char) :
    ∃ next, followBraces lineNo atTop lastCode [] b (front ++ '{' :: rest)
        = followBraces lineNo atTop lastCode ('{' :: front.reverse) next rest
      ∧ next.scopes = inStruct head 0 ∧ next.closed = b.closed := by
  have hopened : openedKind lineNo [] lastCode header = .struct head := hkind
  rw [followBraces_append [] hb hheader.opening hheader.closing, followBraces, if_pos (by decide)]
  dsimp only
  rw [List.append_nil, List.reverse_reverse, hheader.shown, hb, hopened]
  exact ⟨_, rfl, rfl, rfl⟩

end Braces

section Lines

/--
Whether a text and a closing brace behind it are the first code of some lines. A space stands for the end of a
line, and what is passed over does not count.
-/
inductive UpToBrace : List Char → List (List Char) → Prop where
  | here {inside trailer : List Char} {codes : List (List Char)}
      (hcode : isPassedOver (inside ++ '}' :: trailer) = false) :
      UpToBrace inside ((inside ++ '}' :: trailer) :: codes)
  | next {code inside : List Char} {codes : List (List Char)} (hcode : isPassedOver code = false)
      (h : UpToBrace inside codes) : UpToBrace (code ++ ' ' :: inside) (code :: codes)
  | skip {code inside : List Char} {codes : List (List Char)} (hcode : isPassedOver code = true)
      (h : UpToBrace inside codes) : UpToBrace inside (code :: codes)

variable {maxTraced : Int} {lineNo depth after : Nat} {s : State} {head : StructHead}
  {code next inside : List Char}

theorem structs_noteDeclarations (code : List Char) (before : List Scope) (b : Braces) (s : State) :
    (noteDeclarations code before b s).structs = s.structs := by
  unfold noteDeclarations
  split
  · rfl
  · split
    · split <;> rfl
    · split <;> rfl

theorem scopes_noteDeclarations_of_not_block {before : List Scope}
    (h : before.head?.any (·.kind.isBlock) = false) (code : List Char) (b : Braces) (s : State) :
    (noteDeclarations code before b s).scopes = s.scopes := by
  unfold noteDeclarations
  split
  · rfl
  · split
    · rw [if_neg (by simpa using h)]
    · split <;> rfl

def State.braces (s : State) (lineNo : Nat) (code : List Char) : Braces :=
  followBraces lineNo s.scopes.isEmpty s.lastCode [] { scopes := s.scopes, minDepth := s.scopes.length } code

theorem structs_readLine (maxTraced : Int) (lineNo : Nat) (code next : List Char) (s : State) :
    (readLine maxTraced lineNo code next s).1.structs
      =
    s.structs ++ (s.braces lineNo code).closed.filterMap fun entry => closeStruct? entry.1 entry.2 :=
  structs_noteDeclarations ..

theorem scopes_readLine (h : s.scopes.head?.any (·.kind.isBlock) = false) (maxTraced : Int) (lineNo : Nat)
    (code next : List Char) :
    (readLine maxTraced lineNo code next s).1.scopes = (s.braces lineNo code).scopes :=
  scopes_noteDeclarations_of_not_block h ..

theorem structs_readLines (maxTraced : Int) (lineNo : Nat) (s : State) (codes : List (List Char)) :
    s.structs <+: (readLines maxTraced lineNo s codes).structs := by
  induction codes generalizing lineNo s with
  | nil => exact List.prefix_refl _
  | cons code codes ih =>
    rw [readLines]
    refine List.IsPrefix.trans ?_ (ih _ _)
    split
    · exact List.prefix_refl _
    · rw [structs_readLine]
      exact List.prefix_append _ _

variable {name : String} {codes : List (List Char)}

/-
A structure has the fields that stand between its braces.
-/
theorem structs_upToBrace (hcodes : UpToBrace inside codes) (hs : s.scopes = inStruct head depth)
    (hname : head.name = some name) (h : openBraces depth inside = some 0) (maxTraced : Int) (lineNo : Nat) :
    s.structs ++ [{ name, fields := structFields (head.body ++ memberText depth inside) }]
      <+: (readLines maxTraced lineNo s codes).structs := by
  have hblock : s.scopes.head?.any (·.kind.isBlock) = false := by
    rw [hs]
    exact head?_inStruct head depth
  -- The induction is on the lines up to the brace. Each one adds to what has been read of the structure.
  induction hcodes generalizing s head depth lineNo with
  | @here inside trailer codes hcode =>
    rw [readLines, hcode, if_neg (by simp)]
    refine List.IsPrefix.trans ?_ (structs_readLines ..)
    rw [structs_readLine, List.prefix_append_right_inj]
    exact structs_closing hs rfl hname h trailer
  | @next code inside codes hcode hcodes ih =>
    rcases exists_memberText_line h with ⟨after, hline, hrest, hbody⟩
    rw [readLines, hcode, if_neg (by simp), hbody, ← List.append_assoc]
    have hbraces : (s.braces lineNo code).scopes
          = inStruct (head.read (memberText depth (code ++ [' ']))) after
        ∧ (s.braces lineNo code).closed = [] := followBraces_inside hs hline
    have hscopes := scopes_readLine hblock maxTraced lineNo code []
    have hstructs := structs_readLine maxTraced lineNo code [] s
    rw [hbraces.1] at hscopes
    rw [hbraces.2, List.filterMap_nil, List.append_nil] at hstructs
    rw [← hstructs]
    refine ih hscopes hname hrest (lineNo + 1) ?_
    rw [hscopes]
    exact head?_inStruct _ after
  | skip hcode hcodes ih =>
    rw [readLines, hcode, if_pos rfl]
    exact ih hs hname h (lineNo + 1) hblock

/-
A structure at the top of a file that is closed on the line of its opening brace, or on a later line.
-/
theorem structs_definition {front header first : List Char} (hs : s.scopes = [])
    (hheader : Introduces s.lastCode front header)
    (hkind : topLevelKind lineNo s.lastCode header = .struct { name := some name, openedAt := lineNo })
    (hcode : isPassedOver (front ++ '{' :: first) = false)
    (hinside : (∃ trailer, first = inside ++ '}' :: trailer)
      ∨ ∃ later, inside = first ++ ' ' :: later ∧ UpToBrace later codes)
    (h : openBraces 0 inside = some 0) (maxTraced : Int) :
    s.structs ++ [{ name, fields := structFields (memberText 0 inside) }]
      <+: (readLines maxTraced lineNo s ((front ++ '{' :: first) :: codes)).structs := by
  have hstart : ({ scopes := s.scopes, minDepth := s.scopes.length } : Braces).scopes = [] := hs
  rcases exists_followBraces_opening s.scopes.isEmpty hstart hheader hkind first with
    ⟨b, hopened, hscopes, hclosed⟩
  have hbraces : s.braces lineNo (front ++ '{' :: first)
      = followBraces lineNo s.scopes.isEmpty s.lastCode ('{' :: front.reverse) b first := hopened
  have hstructs := structs_readLine maxTraced lineNo (front ++ '{' :: first) [] s
  have hafter := scopes_readLine (by rw [hs]; rfl) maxTraced lineNo (front ++ '{' :: first) []
  rw [hbraces] at hstructs hafter
  rw [readLines, hcode, if_neg (by simp)]
  rcases hinside with ⟨trailer, rfl⟩ | ⟨later, rfl, hlater⟩
  · refine List.IsPrefix.trans ?_ (structs_readLines ..)
    rw [hstructs, List.prefix_append_right_inj]
    exact structs_closing hscopes hclosed rfl h trailer
  · rcases exists_memberText_line h with ⟨after, hfirst, hrest, hbody⟩
    have hinside : (followBraces lineNo s.scopes.isEmpty s.lastCode ('{' :: front.reverse) b first).scopes
          = inStruct (StructHead.read ⟨some name, lineNo, []⟩ (memberText 0 (first ++ [' ']))) after
        ∧ (followBraces lineNo s.scopes.isEmpty s.lastCode ('{' :: front.reverse) b first).closed = b.closed :=
      followBraces_inside hscopes hfirst
    rw [hinside.2, hclosed, List.filterMap_nil, List.append_nil] at hstructs
    rw [hinside.1] at hafter
    rw [hbody, ← hstructs]
    exact structs_upToBrace hlater hafter rfl hrest maxTraced (lineNo + 1)

end Lines

end Playback.Cpp
