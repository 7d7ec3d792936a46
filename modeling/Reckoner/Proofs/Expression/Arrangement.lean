import Reckoner.Proofs.Expression.Faults

/-!
# The arrangement of an order of evaluation

A conversion refuses tokens whose parentheses do not match (`balanced_iff`) and moves the others
about. To say which token went where, also when several are equal, tokens carry their positions:
what is sent out is the numbers and operators that came in, and no number is sent out behind a token
that stood behind it (`Converts.exists_arrangement`). So the numbers keep their order, and every
operator goes behind all numbers in front of it.
-/

namespace Reckoner.Expression

/-! ## Matching parentheses -/

/-- Behind some open parentheses tokens are balanced when no front of them closes more parentheses
than are open, and all of them close as many. -/
theorem balanced_iff (depth : Nat) (tokens : List Token) :
    balanced depth tokens = true ↔
      (∀ front, front <+: tokens → count .rparen front ≤ depth + count .lparen front) ∧
        count .rparen tokens = depth + count .lparen tokens := by
  induction tokens generalizing depth with
  | nil =>
    simp only [balanced, beq_iff_eq, count_nil, List.prefix_nil]
    constructor
    · rintro rfl
      exact ⟨fun front none => by rw [none, count_nil]; omega, rfl⟩
    · intro matched
      omega
  | cons token rest ih =>
    have fronts (bound : List Token → Prop) :
        (∀ front, front <+: token :: rest → bound front) ↔
          bound [] ∧ ∀ front, front <+: rest → bound (token :: front) := by
      constructor
      · intro all
        exact ⟨all [] List.nil_prefix, fun front part =>
          all (token :: front) (List.cons_prefix_cons.mpr ⟨rfl, part⟩)⟩
      · rintro ⟨first, others⟩ front part
        rcases List.prefix_cons_iff.mp part with rfl | ⟨inner, rfl, tail⟩
        · exact first
        · exact others inner tail
    rw [fronts]
    simp only [count_cons, count_nil]
    cases kind : token.kind with
    | number =>
      simp only [balanced, kind, ih, reduceCtorEq, ↓reduceIte, Nat.add_zero]
      exact ⟨fun all => ⟨⟨Nat.zero_le _, all.1⟩, all.2⟩, fun all => ⟨all.1.2, all.2⟩⟩
    | operator =>
      simp only [balanced, kind, ih, reduceCtorEq, ↓reduceIte, Nat.add_zero]
      exact ⟨fun all => ⟨⟨Nat.zero_le _, all.1⟩, all.2⟩, fun all => ⟨all.1.2, all.2⟩⟩
    | lparen =>
      simp only [balanced, kind, ih, reduceCtorEq, ↓reduceIte, Nat.add_zero]
      constructor
      · rintro ⟨inside, total⟩
        refine ⟨⟨by omega, fun front part => ?_⟩, by omega⟩
        have bound := inside front part
        omega
      · rintro ⟨⟨-, inside⟩, total⟩
        refine ⟨fun front part => ?_, by omega⟩
        have bound := inside front part
        omega
    | rparen =>
      simp only [balanced, kind, Bool.and_eq_true, bne_iff_ne, ih, reduceCtorEq, ↓reduceIte,
        Nat.add_zero]
      constructor
      · rintro ⟨opened, inside, total⟩
        refine ⟨⟨by omega, fun front part => ?_⟩, by omega⟩
        have bound := inside front part
        omega
      · rintro ⟨⟨-, inside⟩, total⟩
        have first := inside [] List.nil_prefix
        simp only [count_nil] at first
        refine ⟨by omega, fun front part => ?_, by omega⟩
        have bound := inside front part
        omega

/-- A stack with an opening parenthesis has a group to close. -/
theorem exists_closeGroup? {stack : List Token} (opened : count .lparen stack ≠ 0) :
    ∃ parts, closeGroup? stack = some parts := by
  induction stack with
  | nil => exact absurd rfl opened
  | cons top rest ih =>
    by_cases opens : top.kind = .lparen
    · exact ⟨([], rest), if_pos opens⟩
    · rw [count_cons, if_neg opens, Nat.add_zero] at opened
      obtain ⟨parts, tail⟩ := ih opened
      exact ⟨(top :: parts.1, parts.2), by rw [closeGroup?, if_neg opens, tail]; rfl⟩

/-- A token that can wait on the stack. -/
def CanWait (token : Token) : Prop := token.kind = .operator ∨ token.kind = .lparen

/-- Known tokens convert when they are balanced behind the open parentheses of the stack. -/
theorem exists_postfixFrom {stack tokens : List Token} (waiting : ∀ token ∈ stack, CanWait token)
    (held : ∀ token ∈ stack, Known token) (known : ∀ token ∈ tokens, Known token)
    (matched : balanced (count .lparen stack) tokens = true) :
    ∃ output, postfixFrom stack tokens = .ok output := by
  induction tokens generalizing stack with
  | nil =>
    have none : count .lparen stack = 0 := beq_iff_eq.mp matched
    have closed : stack.any Token.isParen = false := by
      rw [List.any_eq_false]
      intro token member paren
      have others := List.countP_eq_zero.mp none token member
      rcases waiting token member with operator | opening
      · rw [Token.isParen, operator] at paren
        cases paren
      · rw [opening] at others
        exact others rfl
    exact ⟨stack, by rw [postfixFrom, closed, if_neg Bool.false_ne_true]⟩
  | cons token rest ih =>
    obtain ⟨first, others⟩ := List.forall_mem_cons.mp known
    cases kind : token.kind with
    | number =>
      rw [balanced, kind] at matched
      obtain ⟨following, tail⟩ := ih waiting held others matched
      exact ⟨token :: following, by rw [postfixFrom_number kind, tail]; rfl⟩
    | operator =>
      obtain ⟨⟨released, kept⟩, parts⟩ := release_known first held
      obtain ⟨whole, operators⟩ := release_eq_ok parts
      have none : count .lparen released = 0 := count_eq_zero fun other member opens =>
        absurd ((operators other member).symm.trans opens) (by decide)
      rw [balanced, kind, whole, count_append, none, Nat.zero_add] at matched
      have below {other : Token} (member : other ∈ kept) : other ∈ stack :=
        whole ▸ List.mem_append_right released member
      have waits : ∀ other ∈ token :: kept, CanWait other :=
        List.forall_mem_cons.mpr ⟨.inl kind, fun other member => waiting other (below member)⟩
      obtain ⟨following, tail⟩ := ih waits
        (List.forall_mem_cons.mpr ⟨first, fun other member => held other (below member)⟩) others
        (by rw [count_cons, kind]; exact matched)
      exact ⟨released ++ following, by rw [postfixFrom_operator kind parts, tail]; rfl⟩
    | lparen =>
      rw [balanced, kind] at matched
      have waits : ∀ other ∈ token :: stack, CanWait other :=
        List.forall_mem_cons.mpr ⟨.inr kind, waiting⟩
      obtain ⟨following, tail⟩ := ih waits
        (List.forall_mem_cons.mpr ⟨first, held⟩) others
        (by rw [count_cons, if_pos kind]; exact matched)
      exact ⟨following, by rw [postfixFrom_lparen kind, tail]⟩
    | rparen =>
      rw [balanced, kind, Bool.and_eq_true, bne_iff_ne] at matched
      obtain ⟨⟨inside, below⟩, closes⟩ := exists_closeGroup? matched.1
      obtain ⟨opening, opens, whole, closed⟩ := closeGroup?_eq_some closes
      have depth : count .lparen stack - 1 = count .lparen below := by
        rw [whole, count_append, count_eq_zero closed, count_cons, if_pos opens]
        omega
      have lower {other : Token} (member : other ∈ below) : other ∈ stack :=
        whole ▸ List.mem_append_right inside (List.mem_cons_of_mem opening member)
      have waits : ∀ other ∈ below, CanWait other :=
        fun other member => waiting other (lower member)
      obtain ⟨following, tail⟩ := ih waits
        (fun other member => held other (lower member)) others (depth ▸ matched.2)
      exact ⟨inside ++ following, by rw [postfixFrom_rparen kind closes, tail]; rfl⟩

/-- Known tokens convert exactly when they are balanced. -/
theorem balanced_iff_exists_toPostfix {tokens : List Token}
    (known : ∀ token ∈ tokens, Known token) :
    balanced 0 tokens = true ↔ ∃ output, toPostfix tokens = .ok output := by
  constructor
  · exact exists_postfixFrom (fun _ none => absurd none List.not_mem_nil)
      (fun _ none => absurd none List.not_mem_nil) known
  · rintro ⟨output, converted⟩
    exact balanced_of_converts (converts_of_postfixFrom converted)

/-- Known tokens do not convert exactly when their parentheses do not match. -/
theorem toPostfix_eq_error_iff {tokens : List Token} (known : ∀ token ∈ tokens, Known token) :
    toPostfix tokens = .error (.fault .mismatchedParentheses) ↔ balanced 0 tokens = false := by
  rw [← Bool.not_eq_true, balanced_iff_exists_toPostfix known]
  constructor
  · rintro failed ⟨output, converted⟩
    rw [failed] at converted
    cases converted
  · intro refused
    cases converted : toPostfix tokens with
    | ok output => exact absurd ⟨output, converted⟩ refused
    | error failure =>
      obtain ⟨error, rfl, kind⟩ := postfixFrom_faults (fun _ none => absurd none List.not_mem_nil)
        known failure converted
      cases error with
      | mismatchedParentheses => rfl
      | _ => cases List.mem_singleton.mp kind

/-! ## Positions -/

/-- A token that is sent out. -/
def goesOut (entry : Token × Nat) : Bool := !entry.1.isParen

/-- Of two entries in sequence the second is no number that stood in front of the first. -/
def InTurn (earlier later : Token × Nat) : Prop := later.1.kind = .number → earlier.2 < later.2

/-- An operator is sent out. -/
theorem goesOut_of_operator {entry : Token × Nat} (kind : entry.1.kind = .operator) :
    goesOut entry = true := by
  rw [goesOut, Token.isParen, kind]
  rfl

/-- Entries that are sent out of a stack and of the tokens that follow it: the numbers and operators
of both, each once, and no number behind an entry that stood behind it. -/
structure Arranges (placed below entries : List (Token × Nat)) : Prop where
  /-- What goes out is sent out. -/
  sent : placed.Perm ((below ++ entries).filter goesOut)
  /-- Numbers are sent out in turn. -/
  ordered : placed.Pairwise InTurn

namespace Arranges

variable {placed below entries : List (Token × Nat)}

/-- No number waits, so what stood in front of the tokens that follow is in turn with all that is
sent out. -/
theorem inTurn {earlier later : Token × Nat} (arranges : Arranges placed below entries)
    (waiting : ∀ entry ∈ below, CanWait entry.1) (behind : ∀ entry ∈ entries, earlier.2 < entry.2)
    (member : later ∈ placed) : InTurn earlier later := by
  intro number
  have given := (List.mem_filter.mp (arranges.sent.mem_iff.mp member)).1
  rcases List.mem_append.mp given with held | comes
  · rcases waiting later held with operator | opening
    · exact absurd (number.symm.trans operator) (by decide)
    · exact absurd (number.symm.trans opening) (by decide)
  · exact behind later comes

/-- Operators on top of the stack can be sent out first. -/
theorem above {released : List (Token × Nat)} (arranges : Arranges placed below entries)
    (operators : ∀ entry ∈ released, entry.1.kind = .operator)
    (waiting : ∀ entry ∈ below, CanWait entry.1)
    (behind : ∀ earlier ∈ released, ∀ later ∈ entries, earlier.2 < later.2) :
    Arranges (released ++ placed) (released ++ below) entries := by
  constructor
  · have kept : released.filter goesOut = released :=
      List.filter_eq_self.mpr fun entry member => goesOut_of_operator (operators entry member)
    rw [List.append_assoc, List.filter_append, kept]
    exact arranges.sent.append_left released
  · refine List.pairwise_append.mpr ⟨?_, arranges.ordered, ?_⟩
    · refine List.pairwise_of_forall_mem_list fun earlier _ later member number => ?_
      rw [operators later member] at number
      cases number
    · exact fun earlier low later next => arranges.inTurn waiting (behind earlier low) next

/-- A token that comes may have waited as well. -/
theorem push {entry : Token × Nat} (arranges : Arranges placed (entry :: below) entries) :
    Arranges placed below (entry :: entries) :=
  ⟨arranges.sent.trans (List.Perm.filter goesOut List.perm_middle.symm), arranges.ordered⟩

end Arranges

/-- A conversion sends out the numbers and operators of the stack and of the tokens that follow,
each from its own position, and no number behind a token that stood behind it. -/
theorem Converts.exists_arrangement {stack tokens output : List Token}
    (converted : Converts stack tokens output) (below entries : List (Token × Nat))
    (waits : below.map Prod.fst = stack) (comes : entries.map Prod.fst = tokens)
    (waiting : ∀ entry ∈ below, CanWait entry.1)
    (behind : ∀ earlier ∈ below, ∀ later ∈ entries, earlier.2 < later.2)
    (increasing : entries.Pairwise fun earlier later => earlier.2 < later.2) :
    ∃ placed : List (Token × Nat), placed.map Prod.fst = output ∧
      Arranges placed below entries := by
  induction converted generalizing below entries with
  | @nil stack operators =>
    have kinds : ∀ entry ∈ below, entry.1.kind = .operator := fun entry member =>
      (waiting entry member).resolve_right
        (operators entry.1 (waits ▸ List.mem_map_of_mem member))
    have none : Arranges [] [] [] := ⟨List.Perm.nil, List.Pairwise.nil⟩
    have alone := none.above kinds (fun _ member => absurd member List.not_mem_nil)
      fun _ _ _ member => absurd member List.not_mem_nil
    rw [List.append_nil] at alone
    rw [List.map_eq_nil_iff.mp comes]
    exact ⟨below, waits, alone⟩
  | @number stack rest following token kind tail ih =>
    obtain ⟨entry, others, rfl, rfl, later⟩ := List.map_eq_cons_iff.mp comes
    obtain ⟨first, increasing⟩ := List.pairwise_cons.mp increasing
    have behindOthers : ∀ low ∈ below, ∀ coming ∈ others, low.2 < coming.2 :=
      fun low member coming next => behind low member coming (List.mem_cons_of_mem entry next)
    obtain ⟨placed, shown, arranges⟩ :=
      ih below others waits later waiting behindOthers increasing
    have number : goesOut entry = true := by
      rw [goesOut, Token.isParen, kind]
      rfl
    refine ⟨entry :: placed, by rw [List.map_cons, shown], ?_, ?_⟩
    · refine (arranges.sent.cons entry).trans ?_
      rw [← List.filter_cons_of_pos number]
      exact List.perm_middle.symm.filter goesOut
    · exact List.pairwise_cons.mpr
        ⟨fun coming member => arranges.inTurn waiting first member, arranges.ordered⟩
  | @operator released kept rest following token kind operators tail ih =>
    obtain ⟨entry, others, rfl, rfl, later⟩ := List.map_eq_cons_iff.mp comes
    obtain ⟨above, under, rfl, rfl, rfl⟩ := List.map_eq_append_iff.mp waits
    obtain ⟨first, increasing⟩ := List.pairwise_cons.mp increasing
    have waitingUnder : ∀ low ∈ entry :: under, CanWait low.1 :=
      List.forall_mem_cons.mpr ⟨.inl kind, (List.forall_mem_append.mp waiting).2⟩
    have behindUnder : ∀ low ∈ entry :: under, ∀ coming ∈ others, low.2 < coming.2 :=
      List.forall_mem_cons.mpr ⟨first, fun low member coming next =>
        behind low (List.mem_append_right above member) coming (List.mem_cons_of_mem entry next)⟩
    obtain ⟨placed, shown, arranges⟩ :=
      ih (entry :: under) others rfl later waitingUnder behindUnder increasing
    refine ⟨above ++ placed, by rw [List.map_append, shown], Arranges.push ?_⟩
    have ready : ∀ low ∈ above, low.1.kind = .operator :=
      fun low member => operators low.1 (List.mem_map_of_mem member)
    have sent := arranges.above ready waitingUnder
      fun low member coming next =>
        behind low (List.mem_append_left under member) coming (List.mem_cons_of_mem entry next)
    refine ⟨sent.sent.trans (List.Perm.filter goesOut ?_), sent.ordered⟩
    exact List.perm_middle.append_right others
  | @opening stack rest following token kind tail ih =>
    obtain ⟨entry, others, rfl, rfl, later⟩ := List.map_eq_cons_iff.mp comes
    obtain ⟨first, increasing⟩ := List.pairwise_cons.mp increasing
    have behindOthers : ∀ low ∈ entry :: below, ∀ coming ∈ others, low.2 < coming.2 :=
      List.forall_mem_cons.mpr ⟨first, fun low member coming next =>
        behind low member coming (List.mem_cons_of_mem entry next)⟩
    obtain ⟨placed, shown, arranges⟩ := ih (entry :: below) others
      (by rw [List.map_cons, waits]) later (List.forall_mem_cons.mpr ⟨.inr kind, waiting⟩)
      behindOthers increasing
    exact ⟨placed, shown, arranges.push⟩
  | @closing inside lower rest following token opening kind opens closed tail ih =>
    obtain ⟨entry, others, rfl, rfl, later⟩ := List.map_eq_cons_iff.mp comes
    obtain ⟨above, bottom, rfl, rfl, bracketed⟩ := List.map_eq_append_iff.mp waits
    obtain ⟨bracket, under, rfl, rfl, rfl⟩ := List.map_eq_cons_iff.mp bracketed
    obtain ⟨waitingAbove, waitingBottom⟩ := List.forall_mem_append.mp waiting
    have waitingUnder := (List.forall_mem_cons.mp waitingBottom).2
    have behindOthers : ∀ low ∈ above ++ bracket :: under, ∀ coming ∈ others, low.2 < coming.2 :=
      fun low member coming next => behind low member coming (List.mem_cons_of_mem entry next)
    obtain ⟨placed, shown, arranges⟩ := ih under others rfl later waitingUnder
      (fun low member => behindOthers low
        (List.mem_append_right above (List.mem_cons_of_mem bracket member)))
      (List.pairwise_cons.mp increasing).2
    have operators : ∀ low ∈ above, low.1.kind = .operator := fun low member =>
      (waitingAbove low member).resolve_right (closed low.1 (List.mem_map_of_mem member))
    have sent := arranges.above operators waitingUnder
      fun low member => behindOthers low (List.mem_append_left _ member)
    refine ⟨above ++ placed, by rw [List.map_append, shown], ?_, sent.ordered⟩
    -- The two parentheses of the group stay behind.
    have parens : goesOut bracket = false ∧ goesOut entry = false := by
      rw [goesOut, goesOut, Token.isParen, Token.isParen, opens, kind]
      exact ⟨rfl, rfl⟩
    have same := sent.sent
    simp only [List.filter_append, List.filter_cons, parens.1, parens.2, Bool.false_eq_true,
      ↓reduceIte] at same ⊢
    exact same

/-! ## What is sent out -/

/-- A number token. -/
def isNumber (token : Token) : Bool := token.kind == .number

/-- Positions increase along tokens. -/
theorem pairwise_zipIdx (tokens : List Token) :
    tokens.zipIdx.Pairwise fun earlier later => earlier.2 < later.2 := by
  have positions := List.pairwise_lt_range (n := tokens.length)
  rw [List.range_eq_range', ← List.zipIdx_map_snd 0 tokens, List.pairwise_map] at positions
  exact positions

/-- Tokens that convert are arranged in their order of evaluation. -/
theorem exists_arrangement {tokens output : List Token}
    (converted : toPostfix tokens = .ok output) :
    ∃ placed : List (Token × Nat), placed.map Prod.fst = output ∧
      Arranges placed [] tokens.zipIdx :=
  (converts_of_postfixFrom converted).exists_arrangement [] tokens.zipIdx rfl
    (List.zipIdx_map_fst 0 tokens) (fun _ none => absurd none List.not_mem_nil)
    (fun _ none => absurd none List.not_mem_nil) (pairwise_zipIdx tokens)

/-- A selection of entries by their tokens selects those tokens. -/
theorem map_filter_fst (select : Token → Bool) (entries : List (Token × Nat)) :
    (entries.filter fun entry => select entry.1).map Prod.fst =
      (entries.map Prod.fst).filter select := List.filter_map.symm

namespace Arranges

variable {tokens : List Token} {placed : List (Token × Nat)}

/-- What is sent out of tokens is their numbers and operators. -/
theorem perm (arranges : Arranges placed [] tokens.zipIdx) :
    (placed.map Prod.fst).Perm (tokens.filter fun token => !token.isParen) := by
  have sent := arranges.sent.map Prod.fst
  have shown := map_filter_fst (fun token => !token.isParen) tokens.zipIdx
  rw [List.zipIdx_map_fst] at shown
  rw [List.nil_append] at sent
  exact shown ▸ sent

/-- The numbers keep their order. -/
theorem numbers (arranges : Arranges placed [] tokens.zipIdx) :
    (placed.map Prod.fst).filter isNumber = tokens.filter isNumber := by
  let number (entry : Token × Nat) : Bool := isNumber entry.1
  have kind {entry : Token × Nat} (selected : number entry = true) : entry.1.kind = .number :=
    beq_iff_eq.mp selected
  have same : placed.filter number = tokens.zipIdx.filter number := by
    have increasing := (pairwise_zipIdx tokens).filter number
    refine List.Perm.eq_of_pairwise
      (fun earlier later _ _ before after => absurd before (Nat.lt_asymm after)) ?_ increasing ?_
    · refine (arranges.ordered.filter number).imp_of_mem fun _ selected inTurn => ?_
      exact inTurn (kind (List.mem_filter.mp selected).2)
    · have sent := arranges.sent.filter number
      rw [List.nil_append, List.filter_filter] at sent
      refine sent.trans (List.Perm.of_eq (List.filter_congr fun entry _ => ?_))
      cases selected : number entry with
      | false => rfl
      | true =>
        rw [goesOut, Token.isParen, kind selected]
        rfl
  have first := map_filter_fst isNumber placed
  have second := map_filter_fst isNumber tokens.zipIdx
  rw [List.zipIdx_map_fst] at second
  exact first.symm.trans ((congrArg (List.map Prod.fst) same).trans second)

/-- An operator is sent out behind the numbers that stood in front of it. -/
theorem number_before {below entries front back : List (Token × Nat)}
    {operator number : Token × Nat}
    (arranges : Arranges placed below entries) (parts : placed = front ++ operator :: back)
    (kind : operator.1.kind = .operator) (member : number ∈ placed)
    (counts : number.1.kind = .number) (before : number.2 < operator.2) : number ∈ front := by
  have ordered := arranges.ordered
  rw [parts] at member ordered
  obtain ⟨-, ordered, -⟩ := List.pairwise_append.mp ordered
  rcases List.mem_append.mp member with inside | later
  · exact inside
  rcases List.mem_cons.mp later with rfl | behind
  · exact absurd (kind.symm.trans counts) (by decide)
  · have after := (List.pairwise_cons.mp ordered).1 number behind counts
    exact absurd before (Nat.lt_asymm after)

end Arranges

/-- Tokens with known operators are refused exactly when a front of them closes more parentheses
than it opens, or all of them do not close as many as they open. The others have an order of
evaluation without parentheses. It holds their numbers and operators, each token once and at a
position of its own; the numbers are in the order in which they stood, and every operator is behind
all numbers that stood in front of it. -/
theorem toPostfix_arranges (tokens : List Token) (known : ∀ token ∈ tokens, Known token) :
    (toPostfix tokens = .error (.fault .mismatchedParentheses) ↔
      (∃ front, front <+: tokens ∧ count .lparen front < count .rparen front) ∨
        count .lparen tokens ≠ count .rparen tokens) ∧
    (toPostfix tokens ≠ .error (.fault .mismatchedParentheses) →
      ∃ output, toPostfix tokens = .ok output ∧
        (∀ token ∈ output, token.isParen = false) ∧
        output.Perm (tokens.filter fun token => !token.isParen) ∧
        output.filter isNumber = tokens.filter isNumber ∧
        ∃ placed : List (Token × Nat), placed.map Prod.fst = output ∧
          placed.Perm (tokens.zipIdx.filter fun entry => !entry.1.isParen) ∧
          ∀ front operator back, placed = front ++ operator :: back →
            operator.1.kind = .operator → ∀ number ∈ placed, number.1.kind = .number →
              number.2 < operator.2 → number ∈ front) := by
  constructor
  · rw [toPostfix_eq_error_iff known, ← Bool.not_eq_true, balanced_iff,
      Classical.not_and_iff_not_or_not]
    simp only [Classical.not_forall, Nat.zero_add, Nat.not_le, exists_prop]
    exact or_congr_right ne_comm
  · intro accepted
    obtain ⟨output, converted⟩ : ∃ output, toPostfix tokens = .ok output := by
      rw [ne_eq, toPostfix_eq_error_iff known, Bool.not_eq_false] at accepted
      exact (balanced_iff_exists_toPostfix known).mp accepted
    obtain ⟨placed, rfl, arranges⟩ := exists_arrangement converted
    have sent := arranges.sent
    rw [List.nil_append] at sent
    refine ⟨_, converted, fun token member => ?_, arranges.perm, arranges.numbers, placed, rfl,
      sent, fun front operator back parts kind number => arranges.number_before parts kind⟩
    simpa using (List.mem_filter.mp (arranges.perm.mem_iff.mp member)).2

/-- Tokens with two equal numbers, two operators side by side and a unary product. -/
def surplusTokens : List Token :=
  [.number "1", ⟨.operator, "+", false⟩, ⟨.operator, "*", true⟩, .lparen, .number "1",
    ⟨.operator, "-", false⟩, .rparen]

/-- Their order of evaluation. -/
def surplusPostfix : List Token :=
  [.number "1", .number "1", ⟨.operator, "-", false⟩, ⟨.operator, "*", true⟩,
    ⟨.operator, "+", false⟩]

/-- The two equal numbers keep their places, and the tokens that lack operands are sent out as
well. -/
theorem toPostfix_arranges_surplus :
    (∀ token ∈ surplusTokens, Known token) ∧ toPostfix surplusTokens = .ok surplusPostfix ∧
      surplusPostfix.Perm (surplusTokens.filter fun token => !token.isParen) ∧
      surplusPostfix.filter isNumber = surplusTokens.filter isNumber ∧
      toPostfix (surplusTokens ++ [.rparen]) = .error (.fault .mismatchedParentheses) := by
  have known : ∀ token ∈ surplusTokens, Known token := known_of_all (by decide)
  have converted : toPostfix surplusTokens = .ok surplusPostfix := rfl
  obtain ⟨-, arranged⟩ := toPostfix_arranges surplusTokens known
  obtain ⟨refused, -⟩ := toPostfix_arranges (surplusTokens ++ [.rparen])
    (known_of_all (by decide))
  obtain ⟨output, same, -, sent, numbers, -⟩ := arranged (by rw [converted]; exact nofun)
  rw [converted, Except.ok.injEq] at same
  rw [same]
  exact ⟨known, same ▸ converted, sent, numbers, refused.mpr (.inr (by decide))⟩

end Reckoner.Expression
