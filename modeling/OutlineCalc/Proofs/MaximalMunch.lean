import OutlineCalc.Scan

/-!
What the tokens of a line are, without a word on how they are read. A line is cut into lexemes with
gaps between them; every lexeme has the shape of its kind and is as long as it can be, a gap has no
character that a lexeme starts with, and the last gap runs up to the end of the line or to a quote
that nothing closes. There is just one such cut, and reading finds it.
-/

namespace OutlineCalc.Scan

open Letter (isDigit startsName continuesName)

/-- Whether nothing in a line can start with a character. -/
structure Unexpected (c : Char) : Prop where
  noGap : isGap c = false
  noMark : ∀ m : Mark, m.char ≠ c
  noDigit : isDigit c = false
  noName : startsName c = false
  noQuote : c ≠ '\''

/-- Whether a character can stand in a gap. -/
def InGap (c : Char) : Prop := isGap c = true ∨ Unexpected c

/-- `Lexeme token lexeme rest`: in front of `rest` the characters of `lexeme` are a token, and no
more characters are. -/
inductive Lexeme : Token → List Char → List Char → Prop
  | mark (m : Mark) (rest : List Char) : Lexeme (.mark m) [m.char] rest
  | whole {digits rest : List Char} (nonempty : digits ≠ []) (all : ∀ c ∈ digits, isDigit c = true)
      (ended : ∀ c ∈ rest.head?, isDigit c = false) (noPoint : ∀ c more, rest = '.' :: c :: more → isDigit c = false) :
      Lexeme (.number ⟨digits, []⟩) digits rest
  | fraction {whole fraction rest : List Char} (nonempty : whole ≠ []) (all : ∀ c ∈ whole, isDigit c = true)
      (nonempty' : fraction ≠ []) (all' : ∀ c ∈ fraction, isDigit c = true) (ended : ∀ c ∈ rest.head?, isDigit c = false) :
      Lexeme (.number ⟨whole, fraction⟩) (whole ++ '.' :: fraction) rest
  | name {first : Char} {more rest : List Char} (starts : startsName first = true)
      (continues : ∀ c ∈ more, continuesName c = true) (ended : ∀ c ∈ rest.head?, continuesName c = false) :
      Lexeme (.name (String.ofList (first :: more))) (first :: more) rest
  | quoted {content : List Char} (quoteFree : '\'' ∉ content) (rest : List Char) :
      Lexeme (.quoted (String.ofList content)) ('\'' :: content ++ ['\'']) rest

/-- A lexeme with the gap in front of it and the token that it is. -/
@[ext]
structure Piece where
  gap : List Char
  lexeme : List Char
  token : Token

/-- A line cut into pieces, with the gap behind the last of them and the tail that a quote without
another takes. -/
structure Cut where
  pieces : List Piece
  gap : List Char
  tail : List Char

/-- The characters of some pieces. -/
def Piece.chars (pieces : List Piece) : List Char := pieces.flatMap fun piece => piece.gap ++ piece.lexeme

namespace Cut

/-- The characters of the line that was cut. -/
def chars (cut : Cut) : List Char := Piece.chars cut.pieces ++ cut.gap ++ cut.tail

/-- The tokens in front of the end of the line. -/
def tokens (cut : Cut) : List Token := cut.pieces.map (·.token)

/-- The characters of all gaps. -/
def gaps (cut : Cut) : List Char := cut.pieces.flatMap (·.gap) ++ cut.gap

/-- Whether gaps have no character that starts something, lexemes are as long as they can be, and a
tail is a quote with no other behind it. -/
structure Maximal (cut : Cut) : Prop where
  inGap : ∀ c ∈ cut.gaps, InGap c
  lexeme : ∀ before piece after, cut.pieces = before ++ piece :: after →
    Lexeme piece.token piece.lexeme (Piece.chars after ++ cut.gap ++ cut.tail)
  tail : ∀ c cs, cut.tail = c :: cs → c = '\'' ∧ '\'' ∉ cs

end Cut

/-- The last character of some gaps that is not expected. -/
def lastUnexpected (gaps : List Char) : Option Char := (gaps.filter (!isGap ·)).getLast?

/-! ## What a character starts -/

private theorem code_of_isGap {c : Char} (gap : isGap c = true) : c.toNat ≤ 36 := by
  simp only [isGap, Bool.or_eq_true, beq_iff_eq] at gap
  rcases gap with ((rfl | rfl) | rfl) | rfl <;> decide

private theorem code_of_isDigit {c : Char} (digit : isDigit c = true) : 48 ≤ c.toNat ∧ c.toNat ≤ 57 := by
  obtain ⟨low, high⟩ := of_decide_eq_true digit
  exact ⟨Char.le_def.mp low, Char.le_def.mp high⟩

private theorem code_of_startsName {c : Char} (starts : startsName c = true) : 65 ≤ c.toNat := by
  refine Nat.le_of_not_lt fun below => ?_
  have noLetter : Letter.isLetter c = false := CharRange.covers_before _ below
  simp only [startsName, noLetter, Bool.false_or, beq_iff_eq] at starts
  rw [starts] at below
  exact absurd below (by decide)

private theorem code_of_mark (m : Mark) : (39 < m.char.toNat ∧ m.char.toNat < 48) ∨ (57 < m.char.toNat ∧ m.char.toNat < 65) := by
  cases m <;> decide

private theorem ofChar?_eq_none {c : Char} (noMark : ∀ m : Mark, m.char ≠ c) : Mark.ofChar? c = none := by
  cases found : Mark.ofChar? c with
  | none => rfl
  | some m => exact absurd (Mark.ofChar?_eq_some_iff.mp found) (noMark m)

theorem chars_of_isGap {c : Char} (gap : isGap c = true) (cs : List Char) : chars (c :: cs) = chars cs := by
  rw [chars, if_pos gap]

theorem chars_of_unexpected {c : Char} (unexpected : Unexpected c) (cs : List Char) :
    chars (c :: cs) = (chars cs).note (.unexpected c) := by
  obtain ⟨noGap, noMark, noDigit, noName, noQuote⟩ := unexpected
  rw [chars, if_neg (by simp [noGap]), ofChar?_eq_none noMark]
  simp [noDigit, noName, noQuote]

theorem chars_of_mark (m : Mark) (cs : List Char) : chars (m.char :: cs) = (chars cs).push (.mark m) := by
  have noGap : isGap m.char = false := by cases m <;> decide
  rw [chars, if_neg (by simp [noGap]), Mark.ofChar?_eq_some_iff.mpr rfl]

theorem chars_of_isDigit {c : Char} (digit : isDigit c = true) (cs : List Char) :
    chars (c :: cs) = (chars (Numeral.read (c :: cs)).2).push (.number (Numeral.read (c :: cs)).1) := by
  obtain ⟨low, high⟩ := code_of_isDigit digit
  have noGap : ¬ isGap c = true := fun gap => by
    have := code_of_isGap gap
    omega
  have noMark : ∀ m : Mark, m.char ≠ c := by
    rintro m rfl
    have := code_of_mark m
    omega
  rw [chars, if_neg noGap, ofChar?_eq_none noMark]
  simp only [digit, ↓reduceDIte]

theorem chars_of_startsName {c : Char} (starts : startsName c = true) (cs : List Char) :
    chars (c :: cs) =
      (chars (cs.dropWhile continuesName)).push (.name (String.ofList (c :: cs.takeWhile continuesName))) := by
  have high := code_of_startsName starts
  have noGap : ¬ isGap c = true := fun gap => by
    have := code_of_isGap gap
    omega
  have noMark : ∀ m : Mark, m.char ≠ c := by
    rintro m rfl
    have := code_of_mark m
    omega
  have noDigit : ¬ isDigit c = true := fun digit => by
    have := code_of_isDigit digit
    omega
  rw [chars, if_neg noGap, ofChar?_eq_none noMark]
  simp only [noDigit, starts, ↓reduceDIte, ↓reduceIte, Bool.false_eq_true]

private theorem chars_of_quote (cs : List Char) : chars ('\'' :: cs) = match closing? cs with
    | none => ⟨[.endOfLine], some .unterminatedString⟩
    | some (content, after) => (chars after).push (.quoted (String.ofList content)) := by
  rw [chars, if_neg (by decide), ofChar?_eq_none (by intro m; cases m <;> decide)]
  simp only
  rw [dif_neg (by decide), if_neg (by decide), if_pos trivial]
  split
  · rename_i outcome
    rw [outcome]
  · rename_i outcome
    rw [outcome]

theorem closing?_append {content : List Char} (quoteFree : '\'' ∉ content) (after : List Char) :
    closing? (content ++ '\'' :: after) = some (content, after) := by
  induction content with
  | nil => simp [closing?]
  | cons c content ih =>
    rw [List.mem_cons, not_or] at quoteFree
    simp [closing?, Ne.symm quoteFree.1, ih quoteFree.2]

theorem chars_of_quoted {content : List Char} (quoteFree : '\'' ∉ content) (after : List Char) :
    chars ('\'' :: content ++ '\'' :: after) = (chars after).push (.quoted (String.ofList content)) := by
  rw [List.cons_append, chars_of_quote, closing?_append quoteFree]

theorem chars_of_open {cs : List Char} (quoteFree : '\'' ∉ cs) :
    chars ('\'' :: cs) = ⟨[.endOfLine], some .unterminatedString⟩ := by
  rw [chars_of_quote, closing?_eq_none_iff.mpr quoteFree]

/-! ## Lexemes are what is read -/

/-- A run of characters of a kind ends in front of the first that is of another kind. -/
private theorem takeWhile_run {p : Char → Bool} {run rest : List Char} (all : ∀ c ∈ run, p c = true)
    (ended : ∀ c ∈ rest.head?, p c = false) : (run ++ rest).takeWhile p = run ∧ (run ++ rest).dropWhile p = rest := by
  rw [List.takeWhile_append_of_pos all, List.dropWhile_append_of_pos all]
  cases rest with
  | nil => simp
  | cons c rest => simp [ended c rfl]

theorem read_of_whole {digits rest : List Char} (all : ∀ c ∈ digits, isDigit c = true)
    (ended : ∀ c ∈ rest.head?, isDigit c = false) (noPoint : ∀ c more, rest = '.' :: c :: more → isDigit c = false) :
    Numeral.read (digits ++ rest) = (⟨digits, []⟩, rest) := by
  obtain ⟨taken, left⟩ := takeWhile_run all ended
  rw [Numeral.read, taken, left]
  split
  · rename_i c more
    simp [noPoint c more rfl]
  · rfl

theorem read_of_fraction {whole fraction rest : List Char} (all : ∀ c ∈ whole, isDigit c = true)
    (nonempty : fraction ≠ []) (all' : ∀ c ∈ fraction, isDigit c = true) (ended : ∀ c ∈ rest.head?, isDigit c = false) :
    Numeral.read (whole ++ '.' :: fraction ++ rest) = (⟨whole, fraction⟩, rest) := by
  obtain ⟨d, more, rfl⟩ := List.exists_cons_of_ne_nil nonempty
  have digit : isDigit d = true := all' d List.mem_cons_self
  obtain ⟨taken, left⟩ : ((whole ++ '.' :: (d :: more ++ rest)).takeWhile isDigit = whole) ∧
      (whole ++ '.' :: (d :: more ++ rest)).dropWhile isDigit = '.' :: (d :: more ++ rest) :=
    takeWhile_run all (by simp; decide)
  obtain ⟨taken', left'⟩ := takeWhile_run (fun c mem => all' c (List.mem_cons_of_mem d mem)) ended
  rw [List.append_assoc, List.cons_append, Numeral.read, taken, left]
  simp [digit, taken', left']

/-- A lexeme is read as its token, whatever is read behind it. -/
theorem Lexeme.chars_eq {token : Token} {lexeme rest : List Char} (here : Lexeme token lexeme rest) :
    chars (lexeme ++ rest) = (chars rest).push token := by
  cases here with
  | mark m => exact chars_of_mark m rest
  | whole nonempty all ended noPoint =>
    have read := read_of_whole all ended noPoint
    obtain ⟨d, more, rfl⟩ := List.exists_cons_of_ne_nil nonempty
    rw [List.cons_append, chars_of_isDigit (all d List.mem_cons_self), ← List.cons_append, read]
  | @fraction whole _ _ nonempty all nonempty' all' ended =>
    have read := read_of_fraction all nonempty' all' ended
    obtain ⟨d, more, rfl⟩ := List.exists_cons_of_ne_nil nonempty
    simp only [List.cons_append] at read ⊢
    rw [chars_of_isDigit (all d List.mem_cons_self), read]
  | name starts continues ended =>
    obtain ⟨taken, left⟩ := takeWhile_run continues ended
    rw [List.cons_append, chars_of_startsName starts, taken, left]
  | quoted quoteFree =>
    rw [List.append_assoc, List.singleton_append]
    exact chars_of_quoted quoteFree rest

/-- The text of a token is what it was read from. -/
theorem Lexeme.lexeme_eq {token : Token} {lexeme rest : List Char} (here : Lexeme token lexeme rest) :
    token.lexeme.toList = lexeme := by
  cases here with
  | mark m => simp [Token.lexeme]
  | whole => simp [Token.lexeme, Numeral.lexeme, Numeral.chars]
  | fraction _ _ nonempty' => simp [Token.lexeme, Numeral.lexeme, Numeral.chars, nonempty']
  | name => simp [Token.lexeme]
  | quoted => simp [Token.lexeme]

private theorem not_inGap {c : Char} (noGap : isGap c = false)
    (expected : (∃ m : Mark, m.char = c) ∨ isDigit c = true ∨ startsName c = true ∨ c = '\'') : ¬ InGap c := by
  rintro (gap | unexpected)
  · rw [noGap] at gap
    contradiction
  · obtain ⟨m, same⟩ | digit | starts | quote := expected
    · exact unexpected.noMark m same
    · exact absurd unexpected.noDigit (by simp [digit])
    · exact absurd unexpected.noName (by simp [starts])
    · exact unexpected.noQuote quote

private theorem isGap_eq_false {c : Char} (beyond : 36 < c.toNat) : isGap c = false := by
  cases gap : isGap c with
  | false => rfl
  | true =>
    have := code_of_isGap gap
    omega

/-- A lexeme starts with a character that no gap has. -/
theorem Lexeme.starts {token : Token} {lexeme rest : List Char} (here : Lexeme token lexeme rest) :
    ∃ first more, lexeme = first :: more ∧ ¬ InGap first := by
  have ofDigit : ∀ d, isDigit d = true → ¬ InGap d := by
    intro d digit
    have := code_of_isDigit digit
    exact not_inGap (isGap_eq_false (by omega)) (.inr (.inl digit))
  cases here with
  | mark m =>
    have := code_of_mark m
    exact ⟨_, _, rfl, not_inGap (isGap_eq_false (by omega)) (.inl ⟨m, rfl⟩)⟩
  | whole nonempty all =>
    obtain ⟨d, more, rfl⟩ := List.exists_cons_of_ne_nil nonempty
    exact ⟨d, more, rfl, ofDigit d (all d List.mem_cons_self)⟩
  | fraction nonempty all =>
    obtain ⟨d, more, rfl⟩ := List.exists_cons_of_ne_nil nonempty
    exact ⟨d, _, rfl, ofDigit d (all d List.mem_cons_self)⟩
  | name starts =>
    have := code_of_startsName starts
    exact ⟨_, _, rfl, not_inGap (isGap_eq_false (by omega)) (.inr (.inr (.inl starts)))⟩
  | quoted => exact ⟨_, _, rfl, not_inGap (by decide) (.inr (.inr (.inr rfl)))⟩

private theorem head_append {p : Char → Bool} {cs after : List Char} (first : ∀ c ∈ cs.head?, p c = false)
    (next : ∀ c ∈ after.head?, p c = false) : ∀ c ∈ (cs ++ after).head?, p c = false := by
  cases cs with
  | nil => exact next
  | cons c cs => exact first

theorem goesOn_of_isGap {c : Char} (gap : isGap c = true) : isDigit c = false ∧ continuesName c = false := by
  simp only [isGap, Bool.or_eq_true, beq_iff_eq] at gap
  rcases gap with ((rfl | rfl) | rfl) | rfl <;> decide

/-- A lexeme can be no longer either when a gap is put behind all that follows it. -/
theorem Lexeme.append {token : Token} {lexeme rest after : List Char} (here : Lexeme token lexeme rest)
    (apart : ∀ c ∈ after.head?, isGap c = true) : Lexeme token lexeme (rest ++ after) := by
  have noDigit : ∀ c ∈ after.head?, isDigit c = false := fun c mem => (goesOn_of_isGap (apart c mem)).1
  have noName : ∀ c ∈ after.head?, continuesName c = false := fun c mem => (goesOn_of_isGap (apart c mem)).2
  cases here with
  | mark m => exact .mark m _
  | whole nonempty all ended noPoint =>
    refine .whole nonempty all (head_append ended noDigit) fun c more shape => ?_
    match rest with
    | [] =>
      rw [List.nil_append] at shape
      exact absurd (apart '.' (by rw [shape]; rfl)) (by decide)
    | [d] =>
      obtain ⟨rfl, rfl⟩ := List.cons.inj shape
      exact noDigit c rfl
    | d :: e :: rest =>
      obtain ⟨rfl, same⟩ := List.cons.inj shape
      obtain ⟨rfl, rfl⟩ := List.cons.inj same
      exact noPoint e rest rfl
  | fraction nonempty all nonempty' all' ended => exact .fraction nonempty all nonempty' all' (head_append ended noDigit)
  | name starts continues ended => exact .name starts continues (head_append ended noName)
  | quoted quoteFree => exact .quoted quoteFree _

/-! ## A cut is read as its tokens -/

theorem lastUnexpected_append (gaps more : List Char) :
    lastUnexpected (gaps ++ more) = (lastUnexpected more).or (lastUnexpected gaps) := by
  rw [lastUnexpected, List.filter_append, List.getLast?_append]
  rfl

/-- Of a gap only the last character that is not expected leaves a trace. -/
theorem chars_append_of_inGap {gap : List Char} (inGap : ∀ c ∈ gap, InGap c) (after : List Char) :
    chars (gap ++ after) =
      ⟨(chars after).tokens, (chars after).fault.or ((lastUnexpected gap).map .unexpected)⟩ := by
  induction gap with
  | nil => simp [lastUnexpected]
  | cons c gap ih =>
    have rest := ih fun d mem => inGap d (List.mem_cons_of_mem c mem)
    rw [List.cons_append]
    rcases inGap c List.mem_cons_self with blank | unexpected
    · rw [chars_of_isGap blank, rest]
      simp [lastUnexpected, blank]
    · have last : lastUnexpected (c :: gap) = (lastUnexpected gap).or (some c) := by
        rw [← List.singleton_append, lastUnexpected_append]
        simp [lastUnexpected, unexpected.noGap]
      rw [chars_of_unexpected unexpected, rest, last, Scanned.note]
      cases (chars after).fault <;> cases lastUnexpected gap <;> rfl

namespace Cut

/-- What is wrong with a line that was cut. -/
def fault? (cut : Cut) : Option Fault :=
  if cut.tail = [] then (lastUnexpected cut.gaps).map .unexpected else some .unterminatedString

variable {piece : Piece} {pieces : List Piece} {gap tail : List Char}

private theorem chars_cons :
    (Cut.mk (piece :: pieces) gap tail).chars = piece.gap ++ (piece.lexeme ++ (Cut.mk pieces gap tail).chars) := by
  simp [Cut.chars, Piece.chars]

private theorem gaps_cons : (Cut.mk (piece :: pieces) gap tail).gaps = piece.gap ++ (Cut.mk pieces gap tail).gaps := by
  simp [Cut.gaps]

private theorem maximal_cons_iff : (Cut.mk (piece :: pieces) gap tail).Maximal ↔
    (∀ c ∈ piece.gap, InGap c) ∧ Lexeme piece.token piece.lexeme (Cut.mk pieces gap tail).chars ∧
      (Cut.mk pieces gap tail).Maximal := by
  constructor
  · rintro ⟨inGap, lexeme, ended⟩
    rw [gaps_cons] at inGap
    refine ⟨fun c mem => inGap c (List.mem_append_left _ mem), lexeme [] piece pieces rfl, ?_, ?_, ended⟩
    · exact fun c mem => inGap c (List.mem_append_right _ mem)
    · intro before other after split
      exact lexeme (piece :: before) other after (congrArg (piece :: ·) split)
  · rintro ⟨inGap, here, inGap', lexeme, ended⟩
    refine ⟨?_, ?_, ended⟩
    · rw [gaps_cons]
      exact fun c mem => (List.mem_append.mp mem).elim (inGap c) (inGap' c)
    · intro before other after split
      cases before with
      | nil =>
        obtain ⟨rfl, rfl⟩ := List.cons.inj split
        exact here
      | cons first before => exact lexeme before other after (List.cons.inj split).2

private theorem chars_tail (ended : ∀ c cs, tail = c :: cs → c = '\'' ∧ '\'' ∉ cs) :
    Scan.chars tail = ⟨[.endOfLine], if tail = [] then none else some .unterminatedString⟩ := by
  cases tail with
  | nil => simp [Scan.chars]
  | cons c cs =>
    obtain ⟨rfl, quoteFree⟩ := ended c cs rfl
    simp [chars_of_open quoteFree]

/-- In front of a gap a line that was cut is read as its tokens up to its tail. -/
theorem Maximal.chars_append {cut : Cut} (maximal : cut.Maximal) {after : List Char}
    (apart : ∀ c ∈ after.head?, isGap c = true) :
    Scan.chars (cut.chars ++ after) = ⟨cut.tokens ++ (Scan.chars (cut.tail ++ after)).tokens,
      (Scan.chars (cut.tail ++ after)).fault.or ((lastUnexpected cut.gaps).map .unexpected)⟩ := by
  obtain ⟨pieces, gap, tail⟩ := cut
  induction pieces with
  | nil =>
    have inGap : ∀ c ∈ gap, InGap c := fun c mem => maximal.inGap c (by simpa [gaps] using mem)
    have split : (Cut.mk [] gap tail).chars ++ after = gap ++ (tail ++ after) := by simp [Cut.chars, Piece.chars]
    rw [split, chars_append_of_inGap inGap]
    simp [tokens, gaps]
  | cons piece pieces ih =>
    obtain ⟨inGap, here, rest⟩ := maximal_cons_iff.mp maximal
    rw [chars_cons, List.append_assoc, List.append_assoc, chars_append_of_inGap inGap, (here.append apart).chars_eq, ih rest]
    simp only [Scanned.push, tokens, gaps_cons, lastUnexpected_append, List.map_cons, List.cons_append, Option.map_or,
      Option.or_assoc]

/-- The tokens of a line are those of any cut of it, and its fault is that of the cut. -/
theorem Maximal.chars_eq {cut : Cut} (maximal : cut.Maximal) :
    Scan.chars cut.chars = ⟨cut.tokens ++ [.endOfLine], cut.fault?⟩ := by
  have read := maximal.chars_append (show ∀ c ∈ ([] : List Char).head?, isGap c = true by simp)
  rw [List.append_nil, List.append_nil, chars_tail maximal.tail] at read
  rw [read, fault?]
  by_cases empty : cut.tail = [] <;> simp [empty]

theorem Maximal.lexeme_of_mem {cut : Cut} (maximal : cut.Maximal) {token : Token} (mem : token ∈ cut.tokens) :
    ∃ lexeme rest, Lexeme token lexeme rest := by
  obtain ⟨piece, among, rfl⟩ := List.mem_map.mp mem
  obtain ⟨before, after, shape⟩ := List.append_of_mem among
  exact ⟨_, _, maximal.lexeme before piece after shape⟩

/-! ## There is one cut -/

/-- A gap ends in front of the first character that no gap has. -/
private theorem gap_unique {gap gap' after after' : List Char} (inGap : ∀ c ∈ gap, InGap c) (inGap' : ∀ c ∈ gap', InGap c)
    (ended : ∀ c ∈ after.head?, ¬ InGap c) (ended' : ∀ c ∈ after'.head?, ¬ InGap c) (same : gap ++ after = gap' ++ after') :
    gap = gap' ∧ after = after' := by
  induction gap generalizing gap' with
  | nil =>
    cases gap' with
    | nil => exact ⟨rfl, same⟩
    | cons c gap' =>
      rw [List.nil_append] at same
      rw [same] at ended
      exact absurd (inGap' c List.mem_cons_self) (ended c rfl)
  | cons c gap ih =>
    cases gap' with
    | nil =>
      rw [List.nil_append] at same
      rw [← same] at ended'
      exact absurd (inGap c List.mem_cons_self) (ended' c rfl)
    | cons d gap' =>
      obtain ⟨rfl, same'⟩ := List.cons.inj same
      obtain ⟨rfl, rfl⟩ := ih (fun c mem => inGap c (List.mem_cons_of_mem _ mem))
        (fun c mem => inGap' c (List.mem_cons_of_mem _ mem)) same'
      exact ⟨rfl, rfl⟩

private theorem head_tail (ended : ∀ c cs, tail = c :: cs → c = '\'' ∧ '\'' ∉ cs) : ∀ c ∈ tail.head?, ¬ InGap c := by
  cases tail with
  | nil => simp
  | cons c cs =>
    obtain ⟨rfl, _⟩ := ended c cs rfl
    intro c mem
    obtain rfl := Option.some.inj mem
    exact not_inGap (by decide) (.inr (.inr (.inr rfl)))

private theorem head_lexeme {token : Token} {lexeme rest : List Char} (here : Lexeme token lexeme rest) :
    ∀ c ∈ (lexeme ++ rest).head?, ¬ InGap c := by
  obtain ⟨first, more, rfl, noGap⟩ := here.starts
  intro c mem
  obtain rfl := Option.some.inj mem
  exact noGap

/-- A line can be cut in one way only. -/
theorem Maximal.unique {cut other : Cut} (maximal : cut.Maximal) (maximal' : other.Maximal)
    (same : cut.chars = other.chars) : cut = other := by
  -- Both are read as the same tokens, so they have pieces with the same lexemes.
  have tokens : cut.tokens = other.tokens := by
    have read := maximal.chars_eq.symm.trans ((congrArg Scan.chars same).trans maximal'.chars_eq)
    exact List.append_cancel_right (congrArg Scanned.tokens read)
  obtain ⟨pieces, gap, tail⟩ := cut
  obtain ⟨pieces', gap', tail'⟩ := other
  induction pieces generalizing pieces' with
  | nil =>
    obtain rfl : pieces' = [] := List.map_eq_nil_iff.mp tokens.symm
    obtain ⟨rfl, rfl⟩ : gap = gap' ∧ tail = tail' := gap_unique
      (fun c mem => maximal.inGap c (by simpa [gaps] using mem))
      (fun c mem => maximal'.inGap c (by simpa [gaps] using mem)) (head_tail maximal.tail) (head_tail maximal'.tail)
      (by simpa [Cut.chars, Piece.chars] using same)
    rfl
  | cons piece pieces ih =>
    cases pieces' with
    | nil => exact nomatch tokens
    | cons piece' pieces' =>
      obtain ⟨inGap, here, rest⟩ := maximal_cons_iff.mp maximal
      obtain ⟨inGap', here', rest'⟩ := maximal_cons_iff.mp maximal'
      obtain ⟨token, tokens⟩ : piece.token = piece'.token ∧ pieces.map (·.token) = pieces'.map (·.token) :=
        List.cons.inj tokens
      have lexeme : piece.lexeme = piece'.lexeme := by
        rw [← here.lexeme_eq, ← here'.lexeme_eq, token]
      rw [chars_cons, chars_cons] at same
      obtain ⟨first, same⟩ := gap_unique inGap inGap' (head_lexeme here) (head_lexeme here') same
      rw [lexeme] at same
      have more := ih rest pieces' rest' (List.append_cancel_left same) tokens
      obtain ⟨rfl, rfl, rfl⟩ := Cut.mk.inj more
      obtain rfl : piece = piece' := Piece.ext first lexeme token
      rfl

private theorem Maximal.exists_gap {cut : Cut} (maximal : cut.Maximal) {c : Char} (inGap : InGap c) :
    ∃ more : Cut, more.chars = c :: cut.chars ∧ more.Maximal := by
  obtain ⟨pieces, gap, tail⟩ := cut
  cases pieces with
  | nil =>
    refine ⟨⟨[], c :: gap, tail⟩, by simp [Cut.chars, Piece.chars], ?_, fun before _ _ split => ?_, maximal.tail⟩
    · intro d mem
      rcases List.mem_cons.mp mem with rfl | mem
      · exact inGap
      · exact maximal.inGap d mem
    · simp at split
  | cons piece pieces =>
    obtain ⟨inGap', here, rest⟩ := maximal_cons_iff.mp maximal
    refine ⟨⟨⟨c :: piece.gap, piece.lexeme, piece.token⟩ :: pieces, gap, tail⟩, ?_, ?_⟩
    · rw [chars_cons, chars_cons, List.cons_append]
    · refine maximal_cons_iff.mpr ⟨fun d mem => ?_, here, rest⟩
      rcases List.mem_cons.mp mem with rfl | mem
      · exact inGap
      · exact inGap' d mem

private theorem Maximal.exists_lexeme {cut : Cut} (maximal : cut.Maximal) {token : Token} {lexeme : List Char}
    (here : Lexeme token lexeme cut.chars) : ∃ more : Cut, more.chars = lexeme ++ cut.chars ∧ more.Maximal :=
  ⟨⟨⟨[], lexeme, token⟩ :: cut.pieces, cut.gap, cut.tail⟩, chars_cons, maximal_cons_iff.mpr ⟨by simp, here, maximal⟩⟩

end Cut

private theorem of_mem_takeWhile {p : Char → Bool} {cs : List Char} : ∀ c ∈ cs.takeWhile p, p c = true :=
  List.all_eq_true.mp List.all_takeWhile

private theorem head_dropWhile {p : Char → Bool} {cs : List Char} : ∀ c ∈ (cs.dropWhile p).head?, p c = false := by
  intro c first
  have := List.head?_dropWhile_not p cs
  rw [first] at this
  simpa using this

/-- What is read as a number is as much of one as there is. -/
theorem lexeme_read {c : Char} (digit : isDigit c = true) (cs : List Char) :
    Lexeme (.number (Numeral.read (c :: cs)).1) (Numeral.read (c :: cs)).1.chars (Numeral.read (c :: cs)).2 := by
  have nonempty : (c :: cs).takeWhile isDigit ≠ [] := by simp [digit]
  have stops : ∀ d ∈ ((c :: cs).dropWhile isDigit).head?, isDigit d = false := head_dropWhile
  simp only [Numeral.read]
  split
  · rename_i d more shape
    split
    · rename_i digit'
      refine .fraction nonempty of_mem_takeWhile (List.cons_ne_nil _ _) ?_ head_dropWhile
      intro e mem
      rcases List.mem_cons.mp mem with rfl | mem
      · exact digit'
      · exact of_mem_takeWhile e mem
    · rename_i noDigit
      refine .whole nonempty of_mem_takeWhile (by simp; decide) fun e more' same => ?_
      obtain ⟨rfl, _⟩ := List.cons.inj (List.cons.inj same).2
      exact Bool.eq_false_iff.mpr noDigit
  · rename_i noPoint
    exact .whole nonempty of_mem_takeWhile stops fun d more shape => absurd shape (noPoint d more)

/-- Every line can be cut. -/
theorem exists_maximal (cs : List Char) : ∃ cut : Cut, cut.chars = cs ∧ cut.Maximal := by
  fun_induction chars cs with
  | case1 => exact ⟨⟨[], [], []⟩, rfl, by simp [Cut.gaps], by simp, by simp⟩
  | case2 c cs gap ih =>
    obtain ⟨cut, rfl, maximal⟩ := ih
    exact maximal.exists_gap (.inl gap)
  | case3 c cs gap m mark ih =>
    obtain ⟨cut, rfl, maximal⟩ := ih
    obtain rfl := Mark.ofChar?_eq_some_iff.mp mark
    exact maximal.exists_lexeme (.mark m cut.chars)
  | case4 c cs gap digit mark ih =>
    obtain ⟨cut, split, maximal⟩ := ih
    have here := lexeme_read digit cs
    rw [← split] at here
    obtain ⟨more, joined, maximal'⟩ := maximal.exists_lexeme here
    rw [split, Numeral.chars_read_append] at joined
    exact ⟨more, joined, maximal'⟩
  | case5 c cs gap digit starts mark ih =>
    obtain ⟨cut, split, maximal⟩ := ih
    obtain ⟨more, joined, maximal'⟩ := maximal.exists_lexeme (.name starts of_mem_takeWhile (by rw [split]; exact head_dropWhile))
    rw [split, List.cons_append, List.takeWhile_append_dropWhile] at joined
    exact ⟨more, joined, maximal'⟩
  | case6 cs opened gap digit starts mark =>
    refine ⟨⟨[], [], '\'' :: cs⟩, rfl, by simp [Cut.gaps], by simp, fun c rest same => ?_⟩
    obtain ⟨rfl, rfl⟩ := List.cons.inj same
    exact ⟨rfl, closing?_eq_none_iff.mp opened⟩
  | case7 cs content after closed gap digit starts mark ih =>
    obtain ⟨cut, rfl, maximal⟩ := ih
    obtain ⟨rfl, quoteFree⟩ := eq_append_of_closing? closed
    obtain ⟨more, joined, maximal'⟩ := maximal.exists_lexeme (.quoted quoteFree cut.chars)
    exact ⟨more, by simpa using joined, maximal'⟩
  | case8 c cs gap digit starts quote mark ih =>
    obtain ⟨cut, rfl, maximal⟩ := ih
    refine maximal.exists_gap (.inr ⟨by simpa using gap, ?_, by simpa using digit, by simpa using starts, quote⟩)
    intro m same
    exact mark m (Mark.ofChar?_eq_some_iff.mpr same)

/-- Gaps at the end of a line leave no trace, and neither do they where a quote has taken the rest. -/
theorem chars_append_of_isGap (cs : List Char) {blanks : List Char} (gap : ∀ c ∈ blanks, isGap c = true) :
    chars (cs ++ blanks) = chars cs := by
  have passed : chars blanks = chars [] := by
    induction blanks with
    | nil => rfl
    | cons c blanks ih =>
      rw [chars_of_isGap (gap c List.mem_cons_self), ih fun d mem => gap d (List.mem_cons_of_mem c mem)]
  obtain ⟨cut, rfl, maximal⟩ := exists_maximal cs
  have tail : chars (cut.tail ++ blanks) = chars cut.tail := by
    cases tail : cut.tail with
    | nil => exact passed
    | cons c cs =>
      obtain ⟨rfl, quoteFree⟩ := maximal.tail c cs tail
      have quoteFree' : '\'' ∉ cs ++ blanks := by
        refine List.not_mem_append quoteFree fun mem => ?_
        exact absurd (gap _ mem) (by decide)
      rw [List.cons_append, chars_of_open quoteFree', chars_of_open quoteFree]
  have behind := maximal.chars_append fun c mem => gap c (List.mem_of_mem_head? mem)
  have alone := maximal.chars_append (show ∀ c ∈ ([] : List Char).head?, isGap c = true by simp)
  rw [List.append_nil, List.append_nil] at alone
  rw [behind, alone, tail]

private theorem unexpected_ne_unterminated (c : Char) :
    "unexpected character '" ++ c.toString ++ "'" ≠ "unterminated string" := by
  intro same
  have lengths := congrArg String.length same
  simp only [String.length_append] at lengths
  rw [show "unexpected character '".length = 22 from rfl, show "unterminated string".length = 19 from rfl] at lengths
  omega

/-- A line is cut in one way into gaps and lexemes that cannot be longer, with a tail behind the
last gap if a quote is not closed. Its tokens are those of the lexemes and then the end of the line,
which stands nowhere else, and its fault is the tail, or else the last character of a gap that is not
expected. -/
theorem line_cut (text : String) :
    ∃ cut : Cut, cut.chars = text.toList ∧ cut.Maximal ∧ (∀ other : Cut, other.chars = text.toList → other.Maximal → other = cut) ∧
      (line text).tokens = cut.tokens ++ [.endOfLine] ∧ .endOfLine ∉ cut.tokens ∧
      (∀ piece ∈ cut.pieces, piece.lexeme ≠ [] ∧ piece.token.lexeme = String.ofList piece.lexeme) ∧
      (line text).fault.map Fault.message =
        (if cut.tail = [] then (lastUnexpected cut.gaps).map fun c => "unexpected character '" ++ c.toString ++ "'"
        else some "unterminated string") ∧
      ((line text).fault.map Fault.message = some "unterminated string" ↔ cut.tail ≠ []) := by
  obtain ⟨cut, split, maximal⟩ := exists_maximal text.toList
  have read : line text = ⟨cut.tokens ++ [.endOfLine], cut.fault?⟩ := by
    rw [line, ← split, maximal.chars_eq]
  have lexemes : ∀ piece ∈ cut.pieces, ∃ rest, Lexeme piece.token piece.lexeme rest := by
    intro piece mem
    obtain ⟨before, after, shape⟩ := List.append_of_mem mem
    exact ⟨_, maximal.lexeme before piece after shape⟩
  have message : (line text).fault.map Fault.message =
      if cut.tail = [] then (lastUnexpected cut.gaps).map fun c => "unexpected character '" ++ c.toString ++ "'"
      else some "unterminated string" := by
    rw [read, Cut.fault?]
    split
    · rw [Option.map_map]
      rfl
    · rfl
  refine ⟨cut, split, maximal, ?_, by rw [read], ?_, ?_, message, ?_⟩
  · exact fun other split' maximal' => maximal'.unique maximal (split'.trans split.symm)
  · intro mem
    obtain ⟨piece, mem, isEnd⟩ := List.mem_map.mp mem
    obtain ⟨rest, here⟩ := lexemes piece mem
    rw [isEnd] at here
    cases here
  · intro piece mem
    obtain ⟨rest, here⟩ := lexemes piece mem
    obtain ⟨first, more, shape, _⟩ := here.starts
    refine ⟨by rw [shape]; exact List.cons_ne_nil _ _, ?_⟩
    rw [← here.lexeme_eq, String.ofList_toList]
  · rw [message]
    split
    · rename_i closed
      refine ⟨fun same => ?_, fun opened => absurd closed opened⟩
      obtain ⟨c, _, same⟩ := Option.map_eq_some_iff.mp same
      exact absurd same (unexpected_ne_unterminated c)
    · rename_i opened
      exact ⟨fun _ => opened, fun _ => rfl⟩

end OutlineCalc.Scan
