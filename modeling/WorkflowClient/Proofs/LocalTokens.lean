import WorkflowClient.Proofs.LocalReadings

/-!
# Numbers and quoted texts do not depend on what they leave

A number goes on as long as its parts come: behind the whole part a fraction, behind that an
exponent. Whether a part comes is seen from the next character, so each part is shown to be local
for the two cases apart: where it comes, it is taken behind its first character, and where it does
not come, it does not come either when the text is cut off there. The digits of a part are one
stretch, whatever is done with those that no longer fit. A quoted text is taken up to its closing
quotation mark.
-/

namespace WorkflowClient.Json

namespace Numeral

/-- The digits that a text begins with. -/
def digitRun (text : List Char) : Reading (List Char) :=
  .ok (text.takeWhile Char.isDigit, passDigits text)

/-- The digits that a text begins with are taken. -/
theorem digitRun_local : Local TakesPlain digitRun := by
  intro text
  induction text with
  | nil =>
    refine (localAt_ready [] fun front begins => ?_).weaken fun _ => TakesNothing.plain
    rw [List.prefix_nil.mp begins]
    rfl
  | cons c rest inductionHypothesis =>
    by_cases digit : c.isDigit = true
    · have named : LocalAt TakesPlain
          (fun text => .ok (c :: text.takeWhile Char.isDigit, passDigits text)) rest :=
        inductionHypothesis.image (c :: ·) fun _ => rfl
      refine named.behindPlain (plain_digit digit) fun more => ?_
      rw [digitRun, passDigits, List.takeWhile_cons_of_pos digit, List.dropWhile_cons_of_pos digit,
        passDigits]
    · refine (localAt_ready [] fun front begins => ?_).weaken fun _ => TakesNothing.plain
      cases front with
      | nil => rfl
      | cons d more =>
        obtain ⟨rfl, -⟩ := List.cons_prefix_cons.mp begins
        rw [digitRun, passDigits, List.takeWhile_cons_of_neg digit,
          List.dropWhile_cons_of_neg digit]

/-- Only the digits that a text begins with are gathered. -/
theorem gather_run (limit gathered : Nat) (text : List Char) :
    gather limit gathered text =
      ((gather limit gathered (text.takeWhile Char.isDigit)).1,
        (gather limit gathered (text.takeWhile Char.isDigit)).2 ++ passDigits text) := by
  induction text generalizing gathered with
  | nil => rfl
  | cons c rest inductionHypothesis =>
    by_cases digit : c.isDigit = true
    · rw [List.takeWhile_cons_of_pos digit, passDigits, List.dropWhile_cons_of_pos digit]
      by_cases fits : c.isDigit ∧ gathered * 10 + Number.digitValue c ≤ limit
      · simp only [gather, if_pos fits]
        exact inductionHypothesis _
      · simp only [gather, if_neg fits, List.cons_append, List.takeWhile_append_dropWhile]
    · have stops : ¬(c.isDigit ∧ gathered * 10 + Number.digitValue c ≤ limit) :=
        fun fits => digit fits.1
      rw [List.takeWhile_cons_of_neg digit, passDigits, List.dropWhile_cons_of_neg digit]
      simp only [gather, if_neg stops, List.nil_append]

/-- A text that does not go on with a digit does not when it is cut off. -/
theorem startsWithDigit_prefix {front text : List Char} (begins : front <+: text)
    (ends : startsWithDigit text = false) : startsWithDigit front = false := by
  cases front with
  | nil => rfl
  | cons c more =>
    obtain ⟨behind, rfl⟩ := begins
    exact ends

/-- What is left of digits after gathering are digits. -/
theorem gather_left (limit gathered : Nat) {digits : List Char}
    (decimal : ∀ c ∈ digits, c.isDigit = true) :
    ∀ c ∈ (gather limit gathered digits).2, c.isDigit = true := by
  induction digits generalizing gathered with
  | nil => exact decimal
  | cons c others inductionHypothesis =>
    rw [gather]
    split
    · exact inductionHypothesis _ (List.forall_mem_cons.mp decimal).2
    · exact decimal

/-- Where digits are passed over, no digit comes next. -/
theorem startsWithDigit_passDigits (text : List Char) :
    startsWithDigit (passDigits text) = false := by
  induction text with
  | nil => rfl
  | cons c rest inductionHypothesis =>
    by_cases digit : c.isDigit = true
    · rw [passDigits, List.dropWhile_cons_of_pos digit]
      exact inductionHypothesis
    · rw [passDigits, List.dropWhile_cons_of_neg digit]
      exact Bool.eq_false_iff.mpr digit

/-- Digits that are left of gathering are passed over with those behind them. -/
theorem passDigits_gather (limit gathered : Nat) (text : List Char) :
    passDigits (gather limit gathered text).2 = passDigits text := by
  induction text generalizing gathered with
  | nil => rfl
  | cons c rest inductionHypothesis =>
    rw [gather]
    split
    · next fits =>
      rw [inductionHypothesis, passDigits, passDigits, List.dropWhile_cons_of_pos fits.1]
    · rfl

section

variable (negative : Bool) (significand : Nat) (exponent : Int)

/-- What an exponent comes to, from its digits as far as they were gathered and from what stands
behind them. -/
def exponentEnd (lowers : Bool) (gathered : Nat × List Char) (after : List Char) :
    Reading Number :=
  if gathered.2 = [] then
    scaled negative significand
      (if lowers then exponent - gathered.1 else exponent + gathered.1) after
  else if significand ≠ 0 ∧ !lowers then atNext .numberOutOfRange (gathered.2 ++ after)
  else .ok (float negative (Binary64.zero false), after)

/-- The digits of an exponent are told by the run of digits. -/
theorem exponentDigits_digit (lowers : Bool) {c : Char} (digit : c.isDigit = true)
    (text : List Char) :
    exponentDigits negative significand exponent lowers (c :: text) =
      exponentEnd negative significand exponent lowers
        (gather greatestExponent (Number.digitValue c) (text.takeWhile Char.isDigit))
        (passDigits text) := by
  have passed := passDigits_gather greatestExponent (Number.digitValue c) text
  have decimal : ∀ d ∈ text.takeWhile Char.isDigit, d.isDigit = true :=
    List.all_eq_true.mp List.all_takeWhile
  have left := gather_left greatestExponent (Number.digitValue c) decimal
  simp only [exponentDigits, digit, if_true, passed]
  rw [gather_run]
  generalize gather greatestExponent (Number.digitValue c) (text.takeWhile Char.isDigit) =
    gathered at left
  obtain ⟨written, _ | ⟨d, others⟩⟩ := gathered
  · simp [exponentEnd, startsWithDigit_passDigits]
  · have more : d.isDigit = true := left d List.mem_cons_self
    simp [exponentEnd, startsWithDigit, more]

/-- A fraction is told by the run of digits. -/
theorem fractionPart_digit {c : Char} (digit : c.isDigit = true) (text : List Char) :
    fractionPart negative significand exponent (c :: text) =
      let digits := c :: text.takeWhile Char.isDigit
      let gathered := gather greatestSignificand significand digits
      exponentPart negative gathered.1 (exponent - (digits.length - gathered.2.length : Nat))
        (passDigits text) := by
  have run : (c :: text).takeWhile Char.isDigit = c :: text.takeWhile Char.isDigit :=
    List.takeWhile_cons_of_pos digit
  have pass : passDigits (c :: text) = passDigits text := List.dropWhile_cons_of_pos digit
  have passed := passDigits_gather greatestSignificand significand (c :: text)
  have split : text.length = (text.takeWhile Char.isDigit).length + (passDigits text).length := by
    rw [passDigits, ← List.length_append, List.takeWhile_append_dropWhile]
  rw [fractionPart, if_pos digit]
  simp only [passed, pass]
  rw [gather_run, run, pass]
  simp only [List.length_append, List.length_cons, split]
  congr 3
  omega

/-- A number is told by the run of digits that it begins with. -/
theorem numeral_digit {c : Char} (digit : c.isDigit = true) (notZero : c ≠ '0')
    (text : List Char) :
    numeral negative (c :: text) =
      let gathered := gather greatestSignificand (Number.digitValue c)
        (text.takeWhile Char.isDigit)
      afterWhole negative gathered.1 gathered.2.length (passDigits text) := by
  have passed := passDigits_gather greatestSignificand (Number.digitValue c) text
  rw [numeral, if_neg notZero, if_pos digit]
  simp only [passed]
  rw [gather_run]
  simp only [List.length_append, Nat.add_sub_cancel]

/-- Scaling takes nothing. -/
theorem scaled_local : Local TakesNothing (scaled negative significand exponent) := by
  intro text value rest done
  obtain rfl := scaled_rest done
  refine ⟨[], rfl, rfl, ?_⟩
  intro kept _
  rw [scaled] at done ⊢
  split at done
  · rw [(Prod.mk.inj (Except.ok.inj done)).1]
    rfl
  · simp [atLast] at done

/-- Behind the digits of an exponent nothing is taken. -/
theorem exponentEnd_local (lowers : Bool) (gathered : Nat × List Char) :
    Local TakesNothing (exponentEnd negative significand exponent lowers gathered) := by
  intro after
  by_cases all : gathered.2 = []
  · have scales := scaled_local negative significand
      (if lowers then exponent - gathered.1 else exponent + gathered.1) after
    refine scales.congr fun front _ => ?_
    rw [exponentEnd, if_pos all]
  · by_cases large : significand ≠ 0 ∧ !lowers
    · apply localAt_fault
      rw [exponentEnd, if_neg all, if_pos large]
      rfl
    · refine localAt_ready (float negative (Binary64.zero false)) fun front _ => ?_
      rw [exponentEnd, if_neg all, if_neg large]

/-- A reading that is told by a first digit, the run of digits behind it and what is read behind
them. -/
theorem localAt_digits {α : Type} {read : List Char → Reading α} {c : Char}
    (digit : c.isDigit = true) (next : List Char → List Char → Reading α)
    (told : ∀ text, read (c :: text) = next (text.takeWhile Char.isDigit) (passDigits text))
    (others : ∀ digits, Local TakesPlain (next digits)) (text : List Char) :
    LocalAt TakesPlain read (c :: text) := by
  have behind (more : List Char) : read (c :: more) = (digitRun more).andThen next := told more
  have bound : LocalAt TakesPlain (fun more => read (c :: more)) text :=
    (digitRun_local text).andThen behind (fun _ _ => TakesPlain.append) fun digits after _ =>
      others digits after
  exact bound.behindPlain (plain_digit digit) fun _ => rfl

/-- The digits of an exponent are taken. -/
theorem exponentDigits_local (lowers : Bool) :
    Local TakesPlain (exponentDigits negative significand exponent lowers) := by
  intro text
  cases text with
  | nil => exact localAt_fault rfl
  | cons c rest =>
    by_cases digit : c.isDigit = true
    · apply localAt_digits digit fun digits =>
        exponentEnd negative significand exponent lowers
          (gather greatestExponent (Number.digitValue c) digits)
      · exact exponentDigits_digit negative significand exponent lowers digit
      · intro digits text
        have ended := exponentEnd_local negative significand exponent lowers
          (gather greatestExponent (Number.digitValue c) digits) text
        exact ended.weaken fun _ => TakesNothing.plain
    · apply localAt_fault
      rw [exponentDigits, if_neg digit]
      rfl

/-- Behind its mark, an exponent is its sign, if it has one, and its digits. -/
theorem exponentPart_marked {c : Char} (mark : c = 'e' ∨ c = 'E') (text : List Char) :
    exponentPart negative significand exponent (c :: text) =
      match text with
      | '-' :: rest => exponentDigits negative significand exponent true rest
      | '+' :: rest => exponentDigits negative significand exponent false rest
      | rest => exponentDigits negative significand exponent false rest := by
  rw [exponentPart.eq_def]
  exact if_pos mark

/-- An exponent is taken behind its mark. -/
theorem exponentPart_behind {c : Char} (mark : c = 'e' ∨ c = 'E') :
    Local TakesPlain fun more => exponentPart negative significand exponent (c :: more) := by
  intro text
  have digits := exponentDigits_local negative significand exponent
  have marked := exponentPart_marked negative significand exponent mark
  by_cases signed : ∃ d rest, text = d :: rest ∧ (d = '-' ∨ d = '+')
  · obtain ⟨d, rest, rfl, rfl | rfl⟩ := signed
    · exact (digits true rest).behindPlain (by decide) fun _ => marked _
    · exact (digits false rest).behindPlain (by decide) fun _ => marked _
  · apply (digits false text).congr
    intro front begins
    rw [marked]
    split
    · next rest =>
      obtain ⟨behind, rfl⟩ := begins
      exact absurd ⟨'-', rest ++ behind, rfl, .inl rfl⟩ signed
    · next rest =>
      obtain ⟨behind, rfl⟩ := begins
      exact absurd ⟨'+', rest ++ behind, rfl, .inr rfl⟩ signed
    · rfl

/-- An exponent is taken, if one comes. -/
theorem exponentPart_local : Local TakesPlain (exponentPart negative significand exponent) := by
  intro text
  by_cases marked : ∃ c rest, text = c :: rest ∧ (c = 'e' ∨ c = 'E')
  · obtain ⟨c, rest, rfl, mark⟩ := marked
    have plain : Plain c := by
      rcases mark with rfl | rfl
      · decide
      · decide
    exact (exponentPart_behind negative significand exponent mark rest).behindPlain plain
      fun _ => rfl
  · refine ((scaled_local negative significand exponent text).congr fun front begins => ?_).weaken
      fun _ => TakesNothing.plain
    cases front with
    | nil => rfl
    | cons d more =>
      obtain ⟨behind, rfl⟩ := begins
      have unmarked : ¬(d = 'e' ∨ d = 'E') := fun mark => marked ⟨d, more ++ behind, rfl, mark⟩
      rw [exponentPart.eq_def]
      exact if_neg unmarked

/-- A fraction is taken, and an exponent behind it. -/
theorem fractionPart_local : Local TakesPlain (fractionPart negative significand exponent) := by
  intro text
  cases text with
  | nil => exact localAt_fault rfl
  | cons c rest =>
    by_cases digit : c.isDigit = true
    · apply localAt_digits digit fun digits =>
        let gathered := gather greatestSignificand significand (c :: digits)
        exponentPart negative gathered.1
          (exponent - ((c :: digits).length - gathered.2.length : Nat))
      · exact fractionPart_digit negative significand exponent digit
      · exact fun digits => exponentPart_local negative _ _
    · apply localAt_fault
      rw [fractionPart, if_neg digit]
      rfl

/-- Where neither a fraction nor an exponent comes, the whole part is all there is. -/
theorem afterWhole_stops (excess : Nat) {text : List Char}
    (stops : ∀ c ∈ text.head?, ¬(c = '.' ∨ c = 'e' ∨ c = 'E')) :
    afterWhole negative significand excess text =
      if excess ≠ 0 then scaled negative significand excess text
      else .ok (whole negative significand, text) := by
  cases text with
  | nil => rfl
  | cons c rest =>
    obtain ⟨notPoint, notMark⟩ := not_or.mp (stops c rfl)
    obtain ⟨notLower, notUpper⟩ := not_or.mp notMark
    have scales : exponentPart negative significand excess (c :: rest) =
        scaled negative significand excess (c :: rest) := by
      rw [exponentPart.eq_def]
      exact if_neg notMark
    rw [afterWhole.eq_def]
    split
    · next same => exact absurd (List.cons.inj same).1 notPoint
    · next d others _ same =>
      obtain ⟨rfl, rfl⟩ := List.cons.inj same
      simp only [notLower, notUpper, false_or, scales]
    · next same => cases same

/-- Behind the whole part a fraction and an exponent are taken, if they come. -/
theorem afterWhole_local (excess : Nat) :
    Local TakesPlain (afterWhole negative significand excess) := by
  intro text
  by_cases continued : ∃ c rest, text = c :: rest ∧ (c = '.' ∨ c = 'e' ∨ c = 'E')
  · obtain ⟨c, rest, rfl, rfl | mark⟩ := continued
    · exact (fractionPart_local negative significand excess rest).behindPlain (by decide)
        fun _ => rfl
    · have taken := exponentPart_behind negative significand excess mark rest
      rcases mark with rfl | rfl
      · exact taken.behindPlain (by decide) fun _ => rfl
      · exact taken.behindPlain (by decide) fun _ => rfl
  · have stops {front : List Char} (begins : front <+: text) :
        ∀ c ∈ front.head?, ¬(c = '.' ∨ c = 'e' ∨ c = 'E') := by
      intro c first mark
      obtain ⟨more, rfl⟩ := List.head?_eq_some_iff.mp first
      obtain ⟨behind, rfl⟩ := begins
      exact continued ⟨c, more ++ behind, rfl, mark⟩
    have ended : LocalAt TakesNothing (afterWhole negative significand excess) text := by
      by_cases excessive : excess ≠ 0
      · refine (scaled_local negative significand excess text).congr fun front begins => ?_
        rw [afterWhole_stops negative significand excess (stops begins), if_pos excessive]
      · refine localAt_ready (whole negative significand) fun front begins => ?_
        rw [afterWhole_stops negative significand excess (stops begins), if_neg excessive]
    exact ended.weaken fun _ => TakesNothing.plain

end

end Numeral

/-- A number is taken. -/
theorem numeral_local (negative : Bool) : Local TakesPlain (numeral negative) := by
  intro text
  cases text with
  | nil => exact localAt_fault rfl
  | cons c rest =>
    by_cases zero : c = '0'
    · subst zero
      by_cases more : Numeral.startsWithDigit rest = true
      · apply localAt_fault
        rw [numeral, if_pos rfl, if_pos more]
        rfl
      · have ends : Numeral.startsWithDigit rest = false := Bool.eq_false_iff.mpr more
        have behind : LocalAt TakesPlain (fun more => numeral negative ('0' :: more)) rest := by
          refine (Numeral.afterWhole_local negative 0 0 rest).congr fun front begins => ?_
          have cut : ¬Numeral.startsWithDigit front = true := by
            simp [Numeral.startsWithDigit_prefix begins ends]
          rw [numeral, if_pos rfl, if_neg cut]
        exact behind.behindPlain (by decide) fun _ => rfl
    · by_cases digit : c.isDigit = true
      · apply Numeral.localAt_digits digit fun digits =>
          let gathered := Numeral.gather Numeral.greatestSignificand (Number.digitValue c) digits
          Numeral.afterWhole negative gathered.1 gathered.2.length
        · exact Numeral.numeral_digit negative digit zero
        · exact fun digits => Numeral.afterWhole_local negative _ _
      · apply localAt_fault
        rw [numeral, if_neg zero, if_neg digit]
        rfl

namespace Quoted

/-- Four digits are taken. -/
theorem unit_local : Local TakesAny unit := by
  intro text value rest done
  simp only [unit] at done
  split at done
  · simp [atEnd] at done
  · next enough =>
    split at done
    · next a b c d after =>
      split at done
      · next found =>
        obtain ⟨rfl, rfl⟩ := Prod.mk.inj (Except.ok.inj done)
        refine ⟨[a, b, c, d], trivial, rfl, ?_⟩
        intro kept _
        simp only [List.take_succ_cons, List.take_zero] at enough
        simp only [unit, List.cons_append, List.nil_append, List.take_succ_cons, List.take_zero,
          enough, if_false, found]
      · simp at done
    · simp at done

/-- The second unit of a pair is taken. -/
theorem trailingUnit_local (leading : Nat) : Local TakesAny (trailingUnit leading) := by
  intro text value rest done
  simp only [trailingUnit] at done
  split at done
  · simp [atEnd] at done
  · split at done
    · simp [atNext] at done
    · next backslash =>
      split at done
      · simp [atEnd] at done
      · split at done
        · simp [atNext] at done
        · next letter =>
          split at done
          · simp at done
          · next trailing after found =>
            split at done
            · next pair =>
              obtain ⟨rfl, rfl⟩ := Prod.mk.inj (Except.ok.inj done)
              obtain ⟨taken, -, rfl, cut⟩ := unit_local _ _ _ found
              refine ⟨_ :: _ :: taken, trivial, rfl, ?_⟩
              intro kept begins
              simp only [trailingUnit, List.cons_append, backslash, if_false, letter,
                cut kept begins, pair, if_true]
            · simp [atLast] at done

/-- An escape is taken. -/
theorem escape_local : Local TakesAny escape := by
  intro text
  cases text with
  | nil => exact localAt_fault rfl
  | cons c rest =>
    by_cases letter : c = 'u'
    · subst letter
      have chosen (value : Nat) : Local TakesAny fun after =>
          if isTrailing value then atLast .loneSurrogate after
          else if isLeading value then trailingUnit value after
          else .ok (Char.ofNat value, after) := by
        intro after
        by_cases trailing : isTrailing value = true
        · exact localAt_fault (if_pos trailing)
        · by_cases leading : isLeading value = true
          · refine (trailingUnit_local value after).congr fun front _ => ?_
            rw [if_neg trailing, if_pos leading]
          · refine (localAt_ready (Char.ofNat value) fun front _ => ?_).weaken fun _ _ => trivial
            rw [if_neg trailing, if_neg leading]
      have behind : LocalAt TakesAny (fun more => escape ('u' :: more)) rest := by
        refine (unit_local rest).andThen (fun more => ?_) (fun _ _ _ _ => trivial)
          fun value after _ => chosen value after
        rw [escape, if_pos rfl]
        cases unit more <;> rfl
      exact behind.behindFirst (fun _ => rfl) fun _ _ => trivial
    · cases escaped : letterEscape? c with
      | none =>
        apply localAt_fault
        simp only [escape, letter, if_false, escaped]
        rfl
      | some d =>
        refine (local_ready d rest).behindFirst (fun more => ?_) fun _ _ => trivial
        simp only [escape, letter, if_false, escaped]

end Quoted

/-- Behind a backslash an escape comes, and then the rest of the text. -/
theorem quotedText_backslash (text : List Char) :
    quotedText ('\\' :: text) =
      Reading.andThen (Quoted.escape text) fun c rest => Reading.prepend c (quotedText rest) := by
  cases read : Quoted.escape text with
  | ok pair => exact quotedText_escape read
  | error fault =>
    rw [quotedText]
    simp only [show ('\\' : Char) ≠ '"' by decide, if_false, if_true]
    split
    · next found =>
      cases read.symm.trans found
      rfl
    · next found => cases read.symm.trans found

/-- A value in front of others is read where the others are. -/
theorem LocalAt.prepend {α : Type} {Looks : List Char → Prop}
    {read : List Char → Reading (List α)} {text : List Char} (reads : LocalAt Looks read text)
    (value : α) :
    LocalAt Looks (fun text => Reading.prepend value (read text)) text := by
  refine reads.image (value :: ·) fun text => ?_
  cases read text <;> rfl

/-- A quoted text is taken with its closing quotation mark. -/
theorem quotedText_local : Local EndsVisibly quotedText := by
  intro text
  -- The induction is on the length, since an escape leaves less text.
  induction measured : text.length using Nat.strongRecOn generalizing text with
  | ind size inductionHypothesis =>
    subst measured
    match text with
    | [] =>
      apply localAt_fault
      rw [quotedText]
      rfl
    | c :: rest =>
      by_cases quote : c = '"'
      · subst quote
        apply localAt_visible (by decide)
        intro more
        rw [quotedText, if_pos rfl]
      · by_cases backslash : c = '\\'
        · subst backslash
          have behind : LocalAt EndsVisibly (fun more => quotedText ('\\' :: more)) rest := by
            refine (Quoted.escape_local rest).andThenVisibly quotedText_backslash
              fun d after escaped => ?_
            have shorter := Quoted.escape_length escaped
            refine (inductionHypothesis after.length ?_ after rfl).prepend d
            rw [List.length_cons]
            omega
          exact behind.behindAny fun _ => rfl
        · by_cases control : c.toNat < 0x20
          · apply localAt_fault
            rw [quotedText, if_neg quote]
            simp only [backslash, if_false, control, if_true]
            rfl
          · have others := inductionHypothesis rest.length (Nat.lt_succ_self _) rest rfl
            exact (others.prepend c).behindAny (quotedText_plain quote backslash control)

end WorkflowClient.Json
