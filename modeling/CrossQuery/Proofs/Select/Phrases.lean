import CrossQuery.Proofs.Select.Ensured
import CrossQuery.Proofs.Select.Fits

/-!
# Phrases that can be read again

Every phrase of the grammar yields trees that can be read again where they stand, or trees that stand
for nothing. A left side keeps this with each operator that is read behind it.
-/

set_option autoImplicit false

namespace CrossQuery.Select

namespace Grammar

variable {below : Nested} {bound : Nat} {tokens rest : List Token}

/-- The condition of a join can be read again. -/
def SoundJoin (join : TreeJoin) : Prop :=
  ∀ condition, join.constraint = .on condition → condition.Sound

/-- The readers of expressions and of tables yield what can be read again. -/
structure Nested.Sound (below : Nested) : Prop where
  expression : ∀ {bound tokens tree rest}, Takes (below.expression bound) tokens tree rest →
    tree.Fits bound rest ∧ precedence rest ≤ bound
  source : Ensures below.source fun source => ∀ join ∈ source.joins, SoundJoin join

theorem Nested.Sound.whole (sound : below.Sound) : Ensures below.whole Tree.Sound :=
  fun _ _ _ takes => (sound.expression takes).1.sound

section

variable {α β : Type} {holds : α → Prop} {step : Grammar α}

theorem Ensures.failure : Ensures (failure : Grammar α) holds := by
  rintro tokens value rest ⟨⟩

theorem Ensures.map {change : α → β} {holdsNext : β → Prop} (ensures : Ensures step holds)
    (changed : ∀ value, holds value → holdsNext (change value)) :
    Ensures (change <$> step) holdsNext := by
  intro tokens result rest takes
  obtain ⟨value, taken, rfl⟩ := takes.exists_map
  exact changed value (taken.ensured ensures)

theorem Ensures.items (ensures : Ensures step holds) :
    Ensures (items step) fun values => values ≠ [] ∧ ∀ value ∈ values, holds value := by
  have within : ∀ fuel, Ensures (itemsWithin step fuel) fun values =>
      values ≠ [] ∧ ∀ value ∈ values, holds value := by
    intro fuel
    induction fuel with
    | zero => exact .failure
    | succ fuel ih =>
        refine ensures.bind fun first isFirst => .last fun more => .ite ?_ ?_
        · refine ih.bind fun others areOthers => .pure ⟨List.cons_ne_nil _ _, ?_⟩
          exact List.forall_mem_cons.mpr ⟨isFirst, areOthers.2⟩
        · exact .pure ⟨List.cons_ne_nil _ _, by simpa using isFirst⟩
  exact .last fun tokens => within _

theorem Ensures.many {step : Grammar (Option α)}
    (ensures : Ensures step fun value => ∀ taken ∈ value, holds taken) :
    Ensures (many step) fun values => ∀ value ∈ values, holds value := by
  have within : ∀ fuel, Ensures (manyWithin step fuel) fun values => ∀ value ∈ values, holds value := by
    intro fuel
    induction fuel with
    | zero => exact .pure nofun
    | succ fuel ih =>
        refine ensures.bind fun first isFirst => ?_
        cases first with
        | none => exact .pure nofun
        | some value =>
            exact ih.bind fun others areOthers =>
              .pure (List.forall_mem_cons.mpr ⟨isFirst value rfl, areOthers⟩)
  exact .last fun tokens => within _

theorem Ensures.attempt (ensures : Ensures step holds) :
    Ensures (attempt step) fun value => ∀ taken ∈ value, holds taken := by
  intro tokens value rest takes
  cases run : step tokens with
  | none =>
      cases (Fails.attempt run).symm.trans takes
      exact nofun
  | some result =>
      obtain ⟨taken, after⟩ := result
      have same : Takes step tokens taken after := run
      cases same.attempt.symm.trans takes
      rintro _ ⟨⟩
      exact same.ensured ensures

end

theorem Takes.of_attempt {α : Type} {step : Grammar α} {value : Option α}
    (takes : Takes (Grammar.attempt step) tokens value rest) :
    (∃ taken, value = some taken ∧ Takes step tokens taken rest) ∨ value = none ∧ rest = tokens := by
  cases run : step tokens with
  | none =>
      cases (Fails.attempt run).symm.trans takes
      exact .inr ⟨rfl, rfl⟩
  | some result =>
      obtain ⟨taken, after⟩ := result
      have same : Takes step tokens taken after := run
      cases same.attempt.symm.trans takes
      exact .inl ⟨taken, rfl, same⟩

/-- The phrases that are in no statement of the language, whatever is read in them. -/
def refusedTails (below : Nested) : List (Grammar Tree) :=
  [intervalTail below, subscriptTail below, caseTail below, existsTail below, extractTail below,
    roundTail below, substringTail below, overlayTail below, trimTail below, arrayTail below]

theorem ensures_refused (below : Nested) : ∀ tail ∈ refusedTails below, Ensures tail Tree.Refused := by
  simp only [refusedTails, List.forall_mem_cons, List.not_mem_nil, false_implies, implies_true,
    and_true]
  -- Every path through one of them ends in the same tree, or nowhere.
  refine ⟨?_, ?_, ?_, ?_, ?_, ?_, ?_, ?_, ?_, ?_⟩ <;>
    repeat (first
      | exact .pure (Tree.refused_unsupported _)
      | exact .failure
      | refine .last fun _ => ?_
      | refine .ite ?_ ?_
      | split)

theorem ensures_quantified (below : Nested) (bound : Nat) (operator : InfixOperator) :
    Ensures (quantified below bound operator) Tree.Refused := by
  have closed : Ensures (expectSign ")" >>= fun _ => if operator.isComparison = true
      then pure (Tree.unsupported "") else failure) Tree.Refused :=
    .last fun _ => .ite (.pure (Tree.refused_unsupported _)) .failure
  exact .last fun _ => .last fun isQuery => .ite (.last fun _ => closed) (.last fun _ => closed)

theorem ensures_typedText : Ensures (typedText below) Tree.Refused := by
  refine .last fun type => ?_
  cases type with
  | known text => exact .last fun text => .pure (Tree.refused_unsupported _)
  | interval => exact ensures_refused below _ List.mem_cons_self
  | custom name => exact .failure

/-- What a step yields can be read again where it stands. -/
def Fitting (step : Grammar Tree) : Prop :=
  ∀ bound tokens tree rest, Takes step tokens tree rest → tree.Fits bound rest

section Fitting

variable {α : Type} {step : Grammar α} {next : α → Grammar Tree} {other : Grammar Tree} {tree : Tree}

theorem Fitting.pure (fits : ∀ bound rest, tree.Fits bound rest) : Fitting (Pure.pure tree) := by
  rintro bound tokens _ rest ⟨⟩
  exact fits bound tokens

theorem Fitting.last (fitting : ∀ value, Fitting (next value)) : Fitting (step >>= next) := by
  intro bound tokens tree rest takes
  obtain ⟨value, middle, _, takes⟩ := takes.exists_bind
  exact fitting value bound middle tree rest takes

theorem Fitting.ite {condition : Prop} [Decidable condition] {yes no : Grammar Tree}
    (isYes : Fitting yes) (isNo : Fitting no) : Fitting (if condition then yes else no) := by
  split
  · exact isYes
  · exact isNo

theorem Fitting.of_ensures
    (ensures : Ensures other fun tree => ∀ bound rest, tree.Fits bound rest) : Fitting other :=
  fun bound _ _ rest takes => takes.ensured ensures bound rest

theorem Fitting.of_refused (refused : Ensures other Tree.Refused) : Fitting other :=
  fun _ _ _ _ takes => (takes.ensured refused).fits

end Fitting

/-! ### Calls -/

theorem ensures_wildcardOr (sound : below.Sound) :
    Ensures (wildcardOr below) Tree.Sound := by
  refine .last fun star => .ite (.pure Tree.refused_star.sound) ?_
  refine .bind (.attempt (?_ : Ensures _ Tree.Refused)) fun starred areStarred => ?_
  · refine .last fun first => .last fun tokens => .last fun parts => ?_
    exact .ite (.pure (Tree.refused_argument _)) .failure
  · cases starred with
    | some tree => exact .pure (areStarred tree rfl).sound
    | none => exact sound.whole

theorem ensures_callArgument (sound : below.Sound) :
    Ensures (callArgument below) Tree.Sound := by
  refine .bind (.attempt (?_ : Ensures _ Tree.Refused)) fun named areNamed => ?_
  · exact .last fun name => .last fun value => .pure (Tree.refused_argument _)
  · cases named with
    | some tree => exact .pure (areNamed tree rfl).sound
    | none => exact ensures_wildcardOr sound

theorem ensures_callArguments (sound : below.Sound) :
    Ensures (callArguments below) fun result => ∀ argument ∈ result.1, argument.Sound := by
  refine .last fun closed => .ite (.pure nofun) (.last fun all => .last fun distinct => ?_)
  refine .ite (.last fun _ => ?_) ?_ <;>
  · refine (ensures_callArgument sound).items.bind fun arguments areSound => .last fun order => ?_
    refine .last fun limited => .ite (.last fun limit => ?_) ?_ <;>
      exact .last fun _ => .pure areSound.2

theorem fitting_call (sound : below.Sound) (name : List Identifier) :
    Fitting (call below name) := by
  refine .of_ensures (.last fun _ => ?_)
  refine (ensures_callArguments sound).bind fun arguments areSound => .last fun windowed => ?_
  exact .pure fun bound rest => Tree.fits_call areSound

theorem fitting_named (sound : below.Sound) (first : Identifier) :
    Fitting (named below first) := by
  have isName : ∀ bound rest, Tree.Fits bound rest (.identifier first) :=
    fun bound rest => Tree.fits_path [first]
  refine .last fun tokens => .last fun parts => .ite ?_ (.last fun called => .ite ?_ (.ite ?_ ?_))
  · exact .pure fun bound rest => (Tree.refused_argument _).fits
  · exact fitting_call sound _
  · exact .pure fun bound rest => Tree.fits_path _
  · refine .ite (.last fun text => .ite ?_ ?_) ?_
    · exact .pure fun bound rest => (Tree.refused_unsupported _).fits
    · exact .pure isName
    · exact .pure isName

/-! ### Words -/

theorem fitting_refused (below : Nested) {tail : Grammar Tree} (isTail : tail ∈ refusedTails below) :
    Fitting tail :=
  .of_refused (ensures_refused below tail isTail)

theorem fitting_castTail (sound : below.Sound) (word : String) :
    Fitting (castTail below word) := by
  refine .of_ensures (.last fun _ => sound.whole.bind fun operand isSound => .last fun _ => ?_)
  refine .last fun type => .last fun formatted => .ite (.last fun _ => ?_) ?_ <;>
    exact .last fun _ => .pure fun bound rest => isSound.cast

theorem fitting_notTail (sound : below.Sound) : Fitting (notTail below) := by
  refine .last fun tests => .ite (fitting_refused below (by simp [refusedTails])) ?_
  intro bound tokens tree rest takes
  obtain ⟨operand, middle, takesOperand, last⟩ := takes.exists_bind
  cases last
  obtain ⟨fits, stops⟩ := sound.expression takesOperand
  exact fits.not stops

theorem fitting_clockTail (sound : below.Sound) (word : Identifier) :
    Fitting (clockTail below word) := by
  refine .of_ensures (.last fun called => .ite ?_ ?_)
  · exact (ensures_callArguments sound).bind fun arguments areSound =>
      .pure fun bound rest => Tree.fits_call areSound
  · exact .pure fun bound rest => (Tree.refused_call _ _ _).fits

theorem fitting_positionTail (sound : below.Sound) (word : Identifier) :
    Fitting (positionTail below word) := by
  refine .last fun found => ?_
  cases found with
  | some _ => exact .pure fun bound rest => (Tree.refused_unsupported _).fits
  | none => exact fitting_call sound _

/-- What a word begins can be read again, if it begins anything. -/
def FittingWord (step : Grammar (Option Tree)) : Prop :=
  ∀ bound tokens tree rest, Takes step tokens (some tree) rest → tree.Fits bound rest

theorem Fitting.word {step : Grammar Tree} (fitting : Fitting step) :
    FittingWord (some <$> step) := by
  intro bound tokens tree rest takes
  obtain ⟨_, taken, ⟨⟩⟩ := takes.exists_map
  exact fitting bound tokens tree rest taken

theorem FittingWord.none : FittingWord (pure none) := by
  rintro bound tokens tree rest ⟨⟩

theorem FittingWord.last {α : Type} {step : Grammar α} {next : α → Grammar (Option Tree)}
    (fitting : ∀ value, FittingWord (next value)) : FittingWord (step >>= next) := by
  intro bound tokens tree rest takes
  obtain ⟨value, middle, _, takes⟩ := takes.exists_bind
  exact fitting value bound middle tree rest takes

theorem FittingWord.ite {condition : Prop} [Decidable condition] {yes no : Grammar (Option Tree)}
    (isYes : FittingWord yes) (isNo : FittingWord no) :
    FittingWord (if condition then yes else no) := by
  split
  · exact isYes
  · exact isNo

theorem fitting_special (sound : below.Sound) (keyword : String) (word : Identifier) :
    FittingWord (special below keyword word) := by
  have constant : ∀ tree : Tree, (∀ bound rest, tree.Fits bound rest) →
      FittingWord (pure (some tree)) := fun tree fits => (Fitting.pure fits).word
  have clock : FittingWord (pure (some (.call [word] none false false))) :=
    constant _ fun bound rest => (Tree.refused_call _ _ _).fits
  have refused : ∀ tail ∈ refusedTails below, FittingWord (some <$> tail) :=
    fun tail isTail => (fitting_refused below isTail).word
  unfold special
  split
  case h_1 | h_2 | h_3 => exact constant _ fun bound rest => Tree.fits_of_edge rfl .literal rfl
  case h_4 | h_5 | h_6 | h_7 => exact clock
  case h_8 | h_9 | h_10 | h_11 | h_12 => exact (fitting_clockTail sound word).word
  case h_14 | h_15 | h_16 => exact (fitting_castTail sound _).word
  case h_21 => exact .last fun called => .ite (fitting_positionTail sound word).word .none
  case h_26 =>
    refine .last fun bracketed => .ite (refused _ (by simp [refusedTails])) (.last fun called => ?_)
    exact .ite (.last fun _ => clock) .none
  case h_27 => exact (fitting_notTail sound).word
  case h_28 => exact .none
  all_goals exact refused _ (by simp [refusedTails])

theorem fitting_wordPhrase (sound : below.Sound) (keyword : String) (word : Identifier) :
    Fitting (wordPhrase below keyword word) := by
  intro bound tokens tree rest takes
  obtain ⟨begun, middle, attempted, follows⟩ := takes.exists_bind
  rcases attempted.of_attempt with ⟨taken, rfl, takesSpecial⟩ | ⟨rfl, rfl⟩
  · cases taken with
    | none => exact fitting_named sound word _ _ _ _ follows
    | some tree =>
        cases follows
        exact fitting_special sound keyword word _ _ _ _ takesSpecial
  · refine Fitting.ite ?_ (fitting_named sound word) _ _ _ _ follows
    rintro _ _ _ _ ⟨⟩

/-! ### Operands -/

theorem fitting_parenthesisPhrase (sound : below.Sound) :
    Fitting (parenthesisPhrase below) := by
  have refused : ∀ bound rest, Tree.Fits bound rest (.unsupported "") :=
    fun bound rest => (Tree.refused_unsupported "").fits
  have closed : ∀ (tree : Tree) (member : Token → Grammar Tree),
      (∀ bound rest, tree.Fits bound rest) →
      (∀ token, Ensures (member token) fun tree => ∀ bound rest, tree.Fits bound rest) →
      Ensures (expectSign ")" >>= fun _ => acceptSign "." >>= fun pointed =>
        if pointed = true then next >>= member else pure tree) fun tree =>
          ∀ bound rest, tree.Fits bound rest :=
    fun tree member fits areMembers =>
      .last fun _ => .last fun pointed => .ite (.last areMembers) (.pure fits)
  refine .of_ensures (.last fun isQuery => .ite (.last fun query => closed _ _ refused ?_)
    (sound.whole.items.bind fun inside areSound => ?_))
  on_goal 2 => split
  on_goal 2 => refine closed _ _ (fun bound rest => (areSound.2 _ List.mem_cons_self).nested) ?_
  on_goal 3 => refine closed _ _ refused ?_
  all_goals
    intro token
    split
    · exact .pure refused
    · exact .pure refused
    · exact .failure

theorem ensures_parameter : Ensures parameter Tree.Refused := by
  refine .last fun token => ?_
  split
  · exact .pure (Tree.refused_constant _)
  · exact .pure (Tree.refused_constant _)
  · exact .pure (Tree.refused_constant _)
  · exact .failure

theorem fitting_tokenPhrase (sound : below.Sound) : Fitting (tokenPhrase below) := by
  have constant : ∀ shown, Fitting (pure (.constant shown)) :=
    fun shown => .pure fun bound rest => (Tree.refused_constant shown).fits
  have other : ∀ name sign (step : Grammar Tree),
      Fitting (step >>= fun operand => pure (.unary (.other name sign) operand)) :=
    fun name sign step => .last fun operand => .pure fun bound rest =>
      (Tree.refused_unary name sign operand).fits
  refine .last fun token => ?_
  split
  · exact fitting_wordPhrase sound _ _
  · exact fitting_named sound _
  · exact .pure fun bound rest => Tree.fits_number _ _
  · exact .pure fun bound rest => Tree.fits_of_edge rfl .literal rfl
  · exact constant _
  · exact constant _
  · exact fitting_parenthesisPhrase sound
  · exact fitting_refused below (by simp [refusedTails])
  · intro bound tokens tree rest takes
    obtain ⟨operand, middle, takesOperand, last⟩ := takes.exists_bind
    cases last
    obtain ⟨fits, stops⟩ := sound.expression takesOperand
    exact fits.minus stops
  · exact other _ _ _
  · exact other _ _ _
  · exact other _ _ _
  · exact other _ _ _
  · exact other _ _ _
  · exact other _ _ _
  · exact .of_refused ensures_parameter
  · rintro _ _ _ _ ⟨⟩

theorem fitting_primaryPhrase (sound : below.Sound) : Fitting (primaryPhrase below) := by
  intro bound tokens tree rest takes
  obtain ⟨typed, middle, attempted, follows⟩ := takes.exists_bind
  rcases attempted.of_attempt with ⟨taken, rfl, takesTyped⟩ | ⟨rfl, rfl⟩
  · cases follows
    exact (takesTyped.ensured ensures_typedText).fits
  · obtain ⟨operand, behind, takesOperand, collates⟩ := follows.exists_bind
    obtain ⟨collated, after, accepted, last⟩ := collates.exists_bind
    rcases accepted.of_acceptWord with ⟨rfl, text, rfl⟩ | ⟨rfl, rfl⟩
    · obtain ⟨name, others, _, final⟩ := last.exists_bind
      cases final
      exact (Tree.refused_unsupported "").fits
    · cases last
      exact fitting_tokenPhrase sound _ _ _ _ takesOperand

/-! ### Operators -/

section Operators

variable {left tree : Tree} (sound : below.Sound) (fits : left.Fits bound tokens)

include fits

theorem ensures_isTail (tighter : bound < 40) (isNull : precedence tokens = 40) :
    Ensures (isTail below left) fun tree => ∀ rest, tree.Fits bound rest := by
  have refused : ∀ rest, Tree.Fits bound rest (.unsupported "") :=
    fun rest => (Tree.refused_unsupported "").fits
  refine .last fun null => .ite (.pure fun rest => fits.isNull tighter isNull false) ?_
  refine .last fun notNull => .ite (.pure fun rest => fits.isNull tighter isNull true) ?_
  refine .last fun negated => .last fun truth => ?_
  cases truth with
  | some _ => exact .pure refused
  | none => exact .last fun _ => .last fun other => .pure refused

include sound

theorem ensures_inTail (tighter : bound < 60) (isTest : precedence tokens = 60) (negated : Bool) :
    Ensures (inTail below left negated) fun tree => ∀ rest, tree.Fits bound rest := by
  have refused : ∀ rest, Tree.Fits bound rest (.unsupported "") :=
    fun rest => (Tree.refused_unsupported "").fits
  refine .last fun unnests => .ite (.last fun _ => .pure refused) (.last fun _ => ?_)
  refine .last fun isQuery => .ite (.last fun _ => .last fun _ => .pure refused) ?_
  refine sound.whole.items.bind fun list areSound => .last fun _ => .pure fun rest => ?_
  exact fits.inList tighter isTest areSound.1 areSound.2 negated

theorem fits_betweenTail (tighter : bound < 60) (isTest : precedence tokens = 60) {negated : Bool}
    {middle : List Token} (takes : Takes (betweenTail below left negated) middle tree rest) :
    tree.Fits bound rest := by
  obtain ⟨least, behindLeast, takesLeast, follows⟩ := takes.exists_bind
  obtain ⟨_, behindAnd, _, bounded⟩ := follows.exists_bind
  obtain ⟨greatest, behindGreatest, takesGreatest, last⟩ := bounded.exists_bind
  cases last
  have fitsLeast := (sound.expression takesLeast).1
  obtain ⟨fitsGreatest, stops⟩ := sound.expression takesGreatest
  exact fits.between tighter isTest fitsLeast fitsGreatest stops negated

theorem fits_testTail (tighter : bound < precedence tokens) {negated : Bool} {middle : List Token}
    (notTaken : Takes (acceptWord "NOT") tokens negated middle)
    (takes : Takes (testTail below left negated) middle tree rest) : tree.Fits bound rest := by
  have refused : ∀ {step : Grammar Tree} {tokens : List Token}, Ensures step Tree.Refused →
      Takes step tokens tree rest → tree.Fits bound rest :=
    fun ensures takes => (takes.ensured ensures).fits
  obtain ⟨isIn, afterIn, acceptedIn, tests⟩ := takes.exists_bind
  rcases acceptedIn.of_acceptWord with ⟨rfl, text, rfl⟩ | ⟨rfl, rfl⟩
  · have isTest := precedence_of_test notTaken (by decide)
    exact tests.ensured (ensures_inTail sound fits (isTest ▸ tighter) isTest negated) rest
  obtain ⟨isBetween, afterBetween, acceptedBetween, patterns⟩ := Takes.exists_bind tests
  rcases acceptedBetween.of_acceptWord with ⟨rfl, text, rfl⟩ | ⟨rfl, rfl⟩
  · have isTest := precedence_of_test notTaken (by decide)
    exact fits_betweenTail sound fits (isTest ▸ tighter) isTest patterns
  obtain ⟨isLike, afterLike, acceptedLike, others⟩ := Takes.exists_bind patterns
  rcases acceptedLike.of_acceptWord with ⟨rfl, text, rfl⟩ | ⟨rfl, rfl⟩
  · have isTest := precedence_of_test notTaken (by decide)
    obtain ⟨_, afterAny, _, follows⟩ := Takes.exists_bind others
    obtain ⟨pattern, afterPattern, takesPattern, escapes⟩ := Takes.exists_bind follows
    obtain ⟨escape, afterEscape, _, last⟩ := Takes.exists_bind escapes
    cases last
    exact fits.like (isTest ▸ tighter) isTest (sound.expression takesPattern).1 negated
  · -- The patterns of other dialects are behind several words each.
    refine refused ?_ others
    repeat (first
      | exact .pure (Tree.refused_unsupported _)
      | exact .failure
      | refine .last fun _ => ?_
      | refine .ite ?_ ?_
      | split)

theorem fits_operator {operator : InfixOperator} {middle : List Token}
    (tighter : bound < precedence tokens)
    (isOperator : Takes infixOperator tokens (some operator) middle) {behind : List Token}
    {right : Tree} (takes : Takes (below.expression (precedence tokens)) behind right rest) :
    Tree.Fits bound rest (.binary operator left right) := by
  obtain ⟨fitsRight, stops⟩ := sound.expression takes
  cases operator with
  | other name sign => exact (Tree.refused_binary _ _ _ _).fits
  | known operator =>
      obtain ⟨same, edge⟩ := precedence_of_infixOperator isOperator
      rw [same] at tighter fitsRight stops
      exact fits.binary tighter same edge fitsRight stops

/-- What a left side becomes with the operator behind it can be read again. -/
theorem fits_follow (tighter : bound < precedence tokens)
    (takes : Takes (follow below left (precedence tokens)) tokens tree rest) :
    tree.Fits bound rest := by
  have refused : ∀ {step : Grammar Tree} {tokens : List Token}, Ensures step Tree.Refused →
      Takes step tokens tree rest → tree.Fits bound rest :=
    fun ensures takes => (takes.ensured ensures).fits
  obtain ⟨found, middle, takesOperator, follows⟩ := takes.exists_bind
  cases found with
  | some operator =>
      obtain ⟨quantifier, behind, _, joins⟩ := Takes.exists_bind follows
      cases quantifier with
      | some _ => exact refused (ensures_quantified below _ operator) joins
      | none =>
          obtain ⟨right, after, takesRight, last⟩ := Takes.exists_bind joins
          cases last
          exact fits_operator sound fits tighter takesOperator takesRight
  | none =>
      -- What is not there takes no tokens, so each test looks at the same ones.
      obtain rfl := takesOperator.of_infixOperator_none
      obtain ⟨isIs, afterIs, acceptedIs, zones⟩ := Takes.exists_bind follows
      rcases acceptedIs.of_acceptWord with ⟨rfl, text, rfl⟩ | ⟨rfl, rfl⟩
      · exact zones.ensured (ensures_isTail fits tighter rfl) rest
      obtain ⟨isZone, afterZone, acceptedZone, casts⟩ := Takes.exists_bind zones
      cases isZone with
      | true => exact refused (.last fun _ => .pure (Tree.refused_unsupported _)) casts
      | false =>
          obtain rfl := acceptedZone.of_acceptWords_false
          obtain ⟨isCast, afterCast, acceptedCast, factorials⟩ := Takes.exists_bind casts
          rcases acceptedCast.of_acceptSign with ⟨rfl, -⟩ | ⟨rfl, rfl⟩
          · obtain ⟨type, behind, _, last⟩ := Takes.exists_bind factorials
            cases last
            exact fits.sound.cast
          obtain ⟨isFactorial, afterFactorial, acceptedFactorial, subscripts⟩ :=
            Takes.exists_bind factorials
          rcases acceptedFactorial.of_acceptSign with ⟨rfl, -⟩ | ⟨rfl, rfl⟩
          · cases subscripts
            exact (Tree.refused_unary _ _ _).fits
          obtain ⟨isSubscript, afterSubscript, acceptedSubscript, tests⟩ :=
            Takes.exists_bind subscripts
          rcases acceptedSubscript.of_acceptSign with ⟨rfl, -⟩ | ⟨rfl, rfl⟩
          · exact refused (ensures_refused below _ (by simp [refusedTails])) tests
          obtain ⟨negated, afterNot, acceptedNot, tested⟩ := Takes.exists_bind tests
          exact fits_testTail sound fits tighter acceptedNot tested

end Operators

/-! ### Expressions -/

/-- Behind a left side that can be read again, what is read with the operators that bind tighter than
the bound can be, and no more of them follow. -/
theorem fits_climb (sound : below.Sound) {fuel : Nat} {left tree : Tree}
    (fits : left.Fits bound tokens) (takes : Takes (climb below bound fuel left) tokens tree rest) :
    tree.Fits bound rest ∧ precedence rest ≤ bound := by
  induction fuel generalizing left tokens with
  | zero => cases takes
  | succ fuel ih =>
      have known := takes.of_bind (takes_get tokens)
      dsimp only at known
      split at known
      · next stops =>
          cases known
          exact ⟨fits, stops⟩
      · next tighter =>
          obtain ⟨followed, middle, takesFollow, climbs⟩ := known.exists_bind
          exact ih (fits_follow sound fits (Nat.not_le.mp tighter) takesFollow) climbs

theorem fits_expressionPhrase (sound : below.Sound) {tree : Tree}
    (takes : Takes (expressionPhrase below bound) tokens tree rest) :
    tree.Fits bound rest ∧ precedence rest ≤ bound := by
  obtain ⟨first, middle, takesFirst, follows⟩ := takes.exists_bind
  have climbs := follows.of_bind (takes_get middle)
  exact fits_climb sound (fitting_primaryPhrase sound _ _ _ _ takesFirst) climbs

/-! ### Tables -/

theorem ensures_constraint (sound : below.Sound) (natural : Bool) :
    Ensures (constraint below natural) fun constraint =>
      ∀ condition, constraint = .on condition → condition.Sound := by
  have other : ∀ condition, TreeConstraint.other = .on condition → condition.Sound := by
    rintro condition ⟨⟩
  refine .ite (.pure other) (.last fun joinsOn => .ite ?_ (.last fun uses => .ite ?_ ?_))
  · refine sound.whole.bind fun condition isSound => .pure ?_
    rintro _ ⟨⟩
    exact isSound
  · exact .last fun _ => .pure other
  · exact .pure other

theorem ensures_join (sound : below.Sound) :
    Ensures (join below) fun join => ∀ taken ∈ join, SoundJoin taken := by
  have taken : ∀ {kind table} {constraint : TreeConstraint},
      (∀ condition, constraint = .on condition → condition.Sound) →
      ∀ join ∈ some (TreeJoin.mk kind table constraint), SoundJoin join := by
    rintro kind table constraint isSound _ ⟨⟩
    exact isSound
  have crossed : ∀ {kind}, Ensures
      (do pure (some (TreeJoin.mk kind (← below.table) .other))) fun join =>
        ∀ taken ∈ join, SoundJoin taken :=
    .last fun _ => .pure (taken nofun)
  refine .last fun isGlobal => .last fun crosses => .ite (.last fun word => ?_) ?_
  · cases word with
    | some _ => exact crossed
    | none => exact .failure
  refine .last fun applies => .ite (.last fun _ => crossed) (.last fun isAsOf => .ite ?_ ?_)
  · refine .last fun _ => .last fun table => .last fun _ => .last fun _ => ?_
    exact (ensures_constraint sound false).bind fun _ isSound => .pure (taken isSound)
  · refine .last fun natural => .last fun kind => ?_
    cases kind with
    | none => exact .pure nofun
    | some kind =>
        refine .last fun table => ?_
        exact (ensures_constraint sound natural).bind fun _ isSound => .pure (taken isSound)

theorem ensures_sourcePhrase (sound : below.Sound) :
    Ensures (sourcePhrase below) fun source => ∀ join ∈ source.joins, SoundJoin join :=
  .last fun _ => (ensures_join sound).many.bind fun _ areSound => .pure areSound

/-- Every level reads what can be read again. -/
theorem sound_level (depth : Nat) : (level depth).Sound := by
  induction depth with
  | zero => exact ⟨fun takes => (nomatch takes), .failure⟩
  | succ depth ih =>
      exact ⟨fun takes => fits_expressionPhrase ih takes, ensures_sourcePhrase ih⟩

end Grammar

end CrossQuery.Select
