import Mathlib.Data.List.Basic
import Mathlib.Data.List.Count
import Mathlib.Logic.Relation

namespace Proposals

variable {Proposal Answer Value : Type*}

inductive Side
  | left
  | right
  deriving DecidableEq

def Side.other : Side → Side
  | .left => .right
  | .right => .left

@[simp] theorem Side.other_other (side : Side) : side.other.other = side := by
  cases side <;> rfl

theorem Side.eq_or_other (side given : Side) : given = side ∨ given = side.other := by
  cases side <;> cases given <;> simp [Side.other]

inductive Message (Proposal Answer : Type*)
  | proposal (proposal : Proposal)
  | answer (answer : Answer)
  | rejection

inductive Stage (Proposal : Type*)
  | idle
  | proposing (proposal : Proposal)
  | considering (proposal : Proposal)

structure Party (Proposal Answer Value : Type*) where
  value : Value
  stage : Stage Proposal
  inbox : List (Message Proposal Answer)

def Stage.proposed : Stage Proposal → Nat
  | .proposing _ => 1
  | _ => 0

def Stage.considered : Stage Proposal → Nat
  | .considering _ => 1
  | _ => 0

def Party.receive (party : Party Proposal Answer Value) (message : Message Proposal Answer) : Party Proposal Answer Value :=
  { party with inbox := party.inbox ++ [message] }

section Counts

@[simp] def Message.isProposal : Message Proposal Answer → Bool
  | .proposal _ => true
  | _ => false

@[simp] def Message.isAnswer : Message Proposal Answer → Bool
  | .answer _ => true
  | _ => false

@[simp] def Message.isRejection : Message Proposal Answer → Bool
  | .rejection => true
  | _ => false

def proposals (inbox : List (Message Proposal Answer)) : Nat := inbox.countP Message.isProposal

def answers (inbox : List (Message Proposal Answer)) : Nat := inbox.countP Message.isAnswer

def rejections (inbox : List (Message Proposal Answer)) : Nat := inbox.countP Message.isRejection

variable {inbox rest : List (Message Proposal Answer)} {message : Message Proposal Answer}

@[simp] theorem proposals_post : proposals (inbox ++ [message]) = proposals inbox + message.isProposal.toNat := by
  cases message <;> simp [proposals]

@[simp] theorem answers_post : answers (inbox ++ [message]) = answers inbox + message.isAnswer.toNat := by
  cases message <;> simp [answers]

@[simp] theorem rejections_post : rejections (inbox ++ [message]) = rejections inbox + message.isRejection.toNat := by
  cases message <;> simp [rejections]

theorem counts_take (taken : inbox.Perm (message :: rest)) :
    proposals inbox = proposals rest + message.isProposal.toNat ∧
      answers inbox = answers rest + message.isAnswer.toNat ∧
      rejections inbox = rejections rest + message.isRejection.toNat := by
  unfold proposals answers rejections
  rw [taken.countP_eq, taken.countP_eq, taken.countP_eq, List.countP_cons, List.countP_cons, List.countP_cons]
  cases message <;> simp

theorem proposals_pos {proposal : Proposal} (member : .proposal proposal ∈ inbox) : 0 < proposals inbox :=
  List.countP_pos_iff.mpr ⟨_, member, rfl⟩

theorem answers_pos {answer : Answer} (member : .answer answer ∈ inbox) : 0 < answers inbox :=
  List.countP_pos_iff.mpr ⟨_, member, rfl⟩

theorem rejections_pos (member : .rejection ∈ inbox) : 0 < rejections inbox :=
  List.countP_pos_iff.mpr ⟨_, member, rfl⟩

theorem inbox_empty (noProposals : proposals inbox = 0) (noAnswers : answers inbox = 0)
    (noRejections : rejections inbox = 0) : inbox = [] := by
  rw [List.eq_nil_iff_forall_not_mem]
  intro message member
  cases message with
  | proposal proposal => exact absurd (proposals_pos member) (by omega)
  | answer answer => exact absurd (answers_pos member) (by omega)
  | rejection => exact absurd (rejections_pos member) (by omega)

end Counts

section Moves

variable (Accepts : Proposal → Answer → Value → Prop) (Concludes : Proposal → Answer → Value → Value → Prop)

/-- What a party does, and what becomes of it and of the other one. `Accepts` tells with which answer, and
    to which value, a proposal may be accepted; `Concludes` what the one who proposed makes of the answer. -/
inductive Move (mine theirs : Party Proposal Answer Value) : Party Proposal Answer Value →
    Party Proposal Answer Value → Prop
  | propose (proposal : Proposal) :
      mine.stage = .idle → Move mine theirs { mine with stage := .proposing proposal } (theirs.receive (.proposal proposal))
  | take {proposal : Proposal} {rest : List (Message Proposal Answer)} :
      mine.inbox.Perm (.proposal proposal :: rest) → mine.stage = .idle →
        Move mine theirs { mine with inbox := rest, stage := .considering proposal } theirs
  | decline {proposal : Proposal} {rest : List (Message Proposal Answer)} :
      mine.inbox.Perm (.proposal proposal :: rest) →
        Move mine theirs { mine with inbox := rest } (theirs.receive .rejection)
  | refuse {proposal : Proposal} :
      mine.stage = .considering proposal → Move mine theirs { mine with stage := .idle } (theirs.receive .rejection)
  | accept {proposal : Proposal} {answer : Answer} {value : Value} :
      mine.stage = .considering proposal → Accepts proposal answer value →
        Move mine theirs { mine with stage := .idle, value } (theirs.receive (.answer answer))
  | conclude {proposal : Proposal} {answer : Answer} {value : Value} {rest : List (Message Proposal Answer)} :
      mine.inbox.Perm (.answer answer :: rest) → mine.stage = .proposing proposal →
        Concludes proposal answer mine.value value →
        Move mine theirs { mine with inbox := rest, stage := .idle, value } theirs
  | withdraw {proposal : Proposal} {rest : List (Message Proposal Answer)} :
      mine.inbox.Perm (.rejection :: rest) → mine.stage = .proposing proposal →
        Move mine theirs { mine with inbox := rest, stage := .idle } theirs

abbrev World (Proposal Answer Value : Type*) : Type _ := Side → Party Proposal Answer Value

def Moves : Party Proposal Answer Value × Party Proposal Answer Value →
    Party Proposal Answer Value × Party Proposal Answer Value → Prop :=
  Relation.ReflTransGen fun before after => Move Accepts Concludes before.1 before.2 after.1 after.2

def Step (before after : World Proposal Answer Value) : Prop :=
  ∃ side, Moves Accepts Concludes (before side, before side.other) (after side, after side.other)

end Moves

section Ties

variable (Accepts : Proposal → Answer → Value → Prop) (Agree : Value → Value → Prop)

/-- What holds of a party and the other one: a party that has proposed has its proposal, or the reply to
    it, in exactly one place, and while no answer is on the way the values agree. -/
structure Tied (mine theirs : Party Proposal Answer Value) : Prop where
  balanced : proposals theirs.inbox + theirs.stage.considered + answers mine.inbox + rejections mine.inbox =
    mine.stage.proposed
  offered : ∀ proposal, .proposal proposal ∈ theirs.inbox → mine.stage = .proposing proposal
  weighed : ∀ proposal, theirs.stage = .considering proposal → mine.stage = .proposing proposal
  answered : ∀ answer, .answer answer ∈ mine.inbox →
    ∃ proposal, mine.stage = .proposing proposal ∧ Accepts proposal answer theirs.value
  alone : answers mine.inbox = 0 ∨ answers theirs.inbox = 0
  agreed : answers mine.inbox = 0 → answers theirs.inbox = 0 → Agree mine.value theirs.value

def Consistent (world : World Proposal Answer Value) : Prop :=
  ∀ side, Tied Accepts Agree (world side) (world side.other)

variable {Accepts Agree} {Concludes : Proposal → Answer → Value → Value → Prop}
  {mine theirs mine' theirs' : Party Proposal Answer Value}

theorem Tied.quiet (fore : Tied Accepts Agree mine theirs) (still : mine.stage.proposed = 0) :
    proposals theirs.inbox = 0 ∧ theirs.stage.considered = 0 ∧ answers mine.inbox = 0 ∧ rejections mine.inbox = 0 := by
  have balanced := fore.balanced
  omega

theorem Tied.of_quiet (still : mine.stage.proposed = 0) (noProposals : proposals theirs.inbox = 0)
    (unconsidered : theirs.stage.considered = 0) (noAnswers : answers mine.inbox = 0)
    (noRejections : rejections mine.inbox = 0)
    (agreed : answers theirs.inbox = 0 → Agree mine.value theirs.value) : Tied Accepts Agree mine theirs := by
  constructor
  · omega
  · exact fun proposal member => absurd (proposals_pos member) (by omega)
  · intro proposal stage
    rw [stage] at unconsidered
    cases unconsidered
  · exact fun answer member => absurd (answers_pos member) (by omega)
  · exact .inl noAnswers
  · exact fun _ => agreed

theorem Tied.moved (fore : Tied Accepts Agree mine theirs) (stage : mine'.stage = mine.stage)
    (value : mine'.value = mine.value) (valueToo : theirs'.value = theirs.value)
    (same : ∀ answer, .answer answer ∈ mine'.inbox → .answer answer ∈ mine.inbox)
    (mineAnswers : answers mine'.inbox = answers mine.inbox)
    (theirsAnswers : answers theirs'.inbox = answers theirs.inbox)
    (offered : ∀ proposal, .proposal proposal ∈ theirs'.inbox → .proposal proposal ∈ theirs.inbox)
    (weighed : ∀ proposal, theirs'.stage = .considering proposal →
      theirs.stage = .considering proposal ∨ .proposal proposal ∈ theirs.inbox)
    (balanced : proposals theirs'.inbox + theirs'.stage.considered + rejections mine'.inbox =
      proposals theirs.inbox + theirs.stage.considered + rejections mine.inbox) : Tied Accepts Agree mine' theirs' := by
  constructor
  · have before := fore.balanced
    rw [stage, mineAnswers]
    omega
  · intro proposal member
    rw [stage]
    exact fore.offered proposal (offered proposal member)
  · intro proposal considering
    rw [stage]
    rcases weighed proposal considering with before | waiting
    · exact fore.weighed proposal before
    · exact fore.offered proposal waiting
  · intro answer member
    rw [stage, valueToo]
    exact fore.answered answer (same answer member)
  · rw [mineAnswers, theirsAnswers]
    exact fore.alone
  · rw [mineAnswers, theirsAnswers, value, valueToo]
    exact fore.agreed

section Each

theorem propose_tied (fore : Tied Accepts Agree mine theirs) (back : Tied Accepts Agree theirs mine)
    (idle : mine.stage = .idle) (proposal : Proposal) :
    Tied Accepts Agree { mine with stage := .proposing proposal } (theirs.receive (.proposal proposal)) ∧
      Tied Accepts Agree (theirs.receive (.proposal proposal)) { mine with stage := .proposing proposal } := by
  obtain ⟨noProposals, unconsidered, noAnswers, noRejections⟩ := fore.quiet (by rw [idle]; rfl)
  constructor
  · constructor
    · simp [Party.receive, Stage.proposed, noProposals, unconsidered, noAnswers, noRejections]
    · intro other member
      simp only [Party.receive, List.mem_append, List.mem_singleton, Message.proposal.injEq] at member
      rcases member with earlier | rfl
      · exact absurd (proposals_pos earlier) (by omega)
      · rfl
    · intro other stage
      change theirs.stage = _ at stage
      rw [stage] at unconsidered
      cases unconsidered
    · intro answer member
      have some : 0 < answers mine.inbox := answers_pos member
      omega
    · exact .inl noAnswers
    · intro _ others
      exact fore.agreed noAnswers (by simpa [Party.receive] using others)
  · apply back.moved
    · rfl
    · rfl
    · rfl
    · exact fun answer member => by simpa [Party.receive] using member
    · simp [Party.receive]
    · rfl
    · exact fun other member => member
    · exact fun other stage => nomatch stage
    · simp [Party.receive, idle, Stage.considered]

theorem take_tied (fore : Tied Accepts Agree mine theirs) (back : Tied Accepts Agree theirs mine) {proposal : Proposal}
    {rest : List (Message Proposal Answer)} (taken : mine.inbox.Perm (.proposal proposal :: rest))
    (idle : mine.stage = .idle) :
    Tied Accepts Agree { mine with inbox := rest, stage := .considering proposal } theirs ∧
      Tied Accepts Agree theirs { mine with inbox := rest, stage := .considering proposal } := by
  have counts := counts_take taken
  simp only [Message.isProposal, Message.isAnswer, Message.isRejection, Bool.toNat_true, Bool.toNat_false] at counts
  obtain ⟨noProposals, unconsidered, noAnswers, noRejections⟩ := fore.quiet (by rw [idle]; rfl)
  constructor
  · apply Tied.of_quiet
    · rfl
    · exact noProposals
    · exact unconsidered
    · show answers rest = 0
      omega
    · show rejections rest = 0
      omega
    · exact fore.agreed noAnswers
  · apply back.moved
    · rfl
    · rfl
    · rfl
    · exact fun answer member => member
    · rfl
    · show answers rest = answers mine.inbox
      omega
    · exact fun other member => taken.mem_iff.mpr (List.mem_cons_of_mem _ member)
    · rintro other ⟨⟩
      exact .inr (taken.mem_iff.mpr List.mem_cons_self)
    · show proposals rest + 1 + _ = _
      simp only [idle, Stage.considered]
      omega

theorem decline_tied (fore : Tied Accepts Agree mine theirs) (back : Tied Accepts Agree theirs mine) {proposal : Proposal}
    {rest : List (Message Proposal Answer)} (taken : mine.inbox.Perm (.proposal proposal :: rest)) :
    Tied Accepts Agree { mine with inbox := rest } (theirs.receive .rejection) ∧
      Tied Accepts Agree (theirs.receive .rejection) { mine with inbox := rest } := by
  have counts := counts_take taken
  simp only [Message.isProposal, Message.isAnswer, Message.isRejection, Bool.toNat_true, Bool.toNat_false] at counts
  have inside : ∀ message ∈ rest, message ∈ mine.inbox := fun message member =>
    taken.mem_iff.mpr (List.mem_cons_of_mem _ member)
  constructor
  · apply fore.moved
    · rfl
    · rfl
    · rfl
    · exact fun answer member => inside _ member
    · show answers rest = answers mine.inbox
      omega
    · simp [Party.receive]
    · exact fun other member => by simpa [Party.receive] using member
    · exact fun other stage => .inl stage
    · simp [Party.receive]
      omega
  · apply back.moved
    · rfl
    · rfl
    · rfl
    · exact fun answer member => by simpa [Party.receive] using member
    · simp [Party.receive]
    · show answers rest = answers mine.inbox
      omega
    · exact fun other member => inside _ member
    · exact fun other stage => .inl stage
    · simp [Party.receive]
      omega

theorem refuse_tied (fore : Tied Accepts Agree mine theirs) (back : Tied Accepts Agree theirs mine) {proposal : Proposal}
    (considering : mine.stage = .considering proposal) :
    Tied Accepts Agree { mine with stage := .idle } (theirs.receive .rejection) ∧
      Tied Accepts Agree (theirs.receive .rejection) { mine with stage := .idle } := by
  obtain ⟨noProposals, unconsidered, noAnswers, noRejections⟩ := fore.quiet (by rw [considering]; rfl)
  constructor
  · apply Tied.of_quiet
    · rfl
    · simpa [Party.receive] using noProposals
    · exact unconsidered
    · exact noAnswers
    · exact noRejections
    · intro others
      exact fore.agreed noAnswers (by simpa [Party.receive] using others)
  · apply back.moved
    · rfl
    · rfl
    · rfl
    · exact fun answer member => by simpa [Party.receive] using member
    · simp [Party.receive]
    · rfl
    · exact fun other member => member
    · exact fun other stage => nomatch stage
    · simp [Party.receive, considering, Stage.considered]
      omega

theorem accept_tied (fore : Tied Accepts Agree mine theirs) (back : Tied Accepts Agree theirs mine) {proposal : Proposal}
    (considering : mine.stage = .considering proposal) {answer : Answer} {value : Value}
    (accepted : Accepts proposal answer value) :
    Tied Accepts Agree { mine with stage := .idle, value } (theirs.receive (.answer answer)) ∧
      Tied Accepts Agree (theirs.receive (.answer answer)) { mine with stage := .idle, value } := by
  obtain ⟨noProposals, unconsidered, noAnswers, noRejections⟩ := fore.quiet (by rw [considering]; rfl)
  have proposing := back.weighed proposal considering
  have balanced := back.balanced
  simp only [considering, proposing, Stage.considered, Stage.proposed] at balanced
  constructor
  · apply Tied.of_quiet
    · rfl
    · simpa [Party.receive] using noProposals
    · exact unconsidered
    · exact noAnswers
    · exact noRejections
    · intro others
      simp [Party.receive] at others
  · constructor
    · simp [Party.receive, proposing, Stage.considered, Stage.proposed]
      omega
    · intro other member
      have some : 0 < proposals mine.inbox := proposals_pos member
      omega
    · exact fun other stage => nomatch stage
    · intro other member
      simp only [Party.receive, List.mem_append, List.mem_singleton, Message.answer.injEq] at member
      rcases member with earlier | rfl
      · have some := answers_pos earlier
        omega
      · exact ⟨proposal, proposing, accepted⟩
    · exact .inr noAnswers
    · intro others
      simp [Party.receive] at others

theorem withdraw_tied (fore : Tied Accepts Agree mine theirs) (back : Tied Accepts Agree theirs mine) {proposal : Proposal}
    {rest : List (Message Proposal Answer)} (taken : mine.inbox.Perm (.rejection :: rest))
    (proposing : mine.stage = .proposing proposal) :
    Tied Accepts Agree { mine with inbox := rest, stage := .idle } theirs ∧
      Tied Accepts Agree theirs { mine with inbox := rest, stage := .idle } := by
  have counts := counts_take taken
  simp only [Message.isProposal, Message.isAnswer, Message.isRejection, Bool.toNat_true, Bool.toNat_false] at counts
  have balanced := fore.balanced
  simp only [proposing, Stage.proposed] at balanced
  constructor
  · apply Tied.of_quiet
    · rfl
    · omega
    · omega
    · show answers rest = 0
      omega
    · show rejections rest = 0
      omega
    · exact fore.agreed (by omega)
  · apply back.moved
    · rfl
    · rfl
    · rfl
    · exact fun answer member => member
    · rfl
    · show answers rest = answers mine.inbox
      omega
    · exact fun other member => taken.mem_iff.mpr (List.mem_cons_of_mem _ member)
    · exact fun other stage => nomatch stage
    · simp [proposing, Stage.considered]
      omega

theorem conclude_tied (symm : ∀ first second, Agree first second → Agree second first)
    (settle : ∀ proposal answer value before after, Accepts proposal answer value →
      Concludes proposal answer before after → Agree after value) (fore : Tied Accepts Agree mine theirs) (back : Tied Accepts Agree theirs mine) {proposal : Proposal}
    {answer : Answer} {value : Value} {rest : List (Message Proposal Answer)}
    (taken : mine.inbox.Perm (.answer answer :: rest)) (proposing : mine.stage = .proposing proposal)
    (concluded : Concludes proposal answer mine.value value) :
    Tied Accepts Agree { mine with inbox := rest, stage := .idle, value } theirs ∧
      Tied Accepts Agree theirs { mine with inbox := rest, stage := .idle, value } := by
  have counts := counts_take taken
  simp only [Message.isProposal, Message.isAnswer, Message.isRejection, Bool.toNat_true, Bool.toNat_false] at counts
  have balanced := fore.balanced
  simp only [proposing, Stage.proposed] at balanced
  have unanswered : answers theirs.inbox = 0 := fore.alone.resolve_left (by omega)
  obtain ⟨known, same, accepted⟩ := fore.answered answer (taken.mem_iff.mpr List.mem_cons_self)
  rw [proposing, Stage.proposing.injEq] at same
  subst same
  have agree := settle _ _ _ _ _ accepted concluded
  constructor
  · apply Tied.of_quiet
    · rfl
    · omega
    · omega
    · show answers rest = 0
      omega
    · show rejections rest = 0
      omega
    · exact fun _ => agree
  · have other := back.balanced
    simp only [proposing, Stage.considered] at other
    constructor
    · show proposals rest + 0 + answers theirs.inbox + rejections theirs.inbox = _
      omega
    · exact fun given member => back.offered given (taken.mem_iff.mpr (List.mem_cons_of_mem _ member))
    · exact fun given stage => nomatch stage
    · intro given member
      have some := answers_pos member
      omega
    · exact .inl unanswered
    · exact fun _ _ => symm _ _ agree

end Each

section Whole

variable {before after : World Proposal Answer Value}

theorem Move.tied (symm : ∀ first second, Agree first second → Agree second first)
    (settle : ∀ proposal answer value before after, Accepts proposal answer value →
      Concludes proposal answer before after → Agree after value) (fore : Tied Accepts Agree mine theirs) (back : Tied Accepts Agree theirs mine)
    (move : Move Accepts Concludes mine theirs mine' theirs') :
    Tied Accepts Agree mine' theirs' ∧ Tied Accepts Agree theirs' mine' := by
  cases move with
  | propose proposal idle => exact propose_tied fore back idle proposal
  | take taken idle => exact take_tied fore back taken idle
  | decline taken => exact decline_tied fore back taken
  | refuse considering => exact refuse_tied fore back considering
  | accept considering accepted => exact accept_tied fore back considering accepted
  | conclude taken proposing concluded => exact conclude_tied symm settle fore back taken proposing concluded
  | withdraw taken proposing => exact withdraw_tied fore back taken proposing

theorem Moves.tied (symm : ∀ first second, Agree first second → Agree second first)
    (settle : ∀ proposal answer value before after, Accepts proposal answer value →
      Concludes proposal answer before after → Agree after value)
    {before after : Party Proposal Answer Value × Party Proposal Answer Value}
    (fore : Tied Accepts Agree before.1 before.2) (back : Tied Accepts Agree before.2 before.1)
    (moves : Moves Accepts Concludes before after) :
    Tied Accepts Agree after.1 after.2 ∧ Tied Accepts Agree after.2 after.1 := by
  induction moves with
  | refl => exact ⟨fore, back⟩
  | tail _ move ih => exact move.tied symm settle ih.1 ih.2

theorem Step.consistent (symm : ∀ first second, Agree first second → Agree second first)
    (settle : ∀ proposal answer value before after, Accepts proposal answer value →
      Concludes proposal answer before after → Agree after value) (consistent : Consistent Accepts Agree before)
    (step : Step Accepts Concludes before after) : Consistent Accepts Agree after := by
  obtain ⟨side, moves⟩ := step
  have back := consistent side.other
  rw [Side.other_other] at back
  obtain ⟨fore, rest⟩ := Moves.tied symm settle (consistent side) back moves
  intro given
  rcases side.eq_or_other given with rfl | rfl
  · exact fore
  · rw [Side.other_other]
    exact rest

theorem Consistent.of_fresh (empty : ∀ side, (before side).inbox = [] ∧ (before side).stage = .idle)
    (agree : ∀ side, Agree (before side).value (before side.other).value) : Consistent Accepts Agree before := by
  intro side
  apply Tied.of_quiet
  · rw [(empty side).2]
    rfl
  · rw [(empty side.other).1]
    rfl
  · rw [(empty side.other).2]
    rfl
  · rw [(empty side).1]
    rfl
  · rw [(empty side).1]
    rfl
  · exact fun _ => agree side

/-- Where neither has a proposal at hand nothing is on the way, and the values agree. -/
theorem Consistent.settled (consistent : Consistent Accepts Agree before) (idle : ∀ side, (before side).stage = .idle) :
    ∀ side, (before side).inbox = [] ∧ Agree (before side).value (before side.other).value := by
  intro side
  obtain ⟨noProposals, -, noAnswers, noRejections⟩ := (consistent side).quiet (by rw [idle side]; rfl)
  have back := consistent side.other
  rw [Side.other_other] at back
  obtain ⟨mineProposals, -, theirAnswers, -⟩ := back.quiet (by rw [idle side.other]; rfl)
  exact ⟨inbox_empty mineProposals noAnswers noRejections, (consistent side).agreed noAnswers theirAnswers⟩

theorem Consistent.replied (consistent : Consistent Accepts Agree before) {side : Side} {message : Message Proposal Answer}
    (member : message ∈ (before side).inbox) (reply : message.isProposal = false) :
    ∃ proposal, (before side).stage = .proposing proposal := by
  have balanced := (consistent side).balanced
  have some : 0 < answers (before side).inbox + rejections (before side).inbox := by
    cases message with
    | proposal proposal => cases reply
    | answer answer =>
      have pos := answers_pos member
      omega
    | rejection =>
      have pos := rejections_pos member
      omega
  cases stage : (before side).stage with
  | proposing proposal => exact ⟨proposal, rfl⟩
  | idle =>
    rw [stage] at balanced
    simp only [Stage.proposed] at balanced
    omega
  | considering proposal =>
    rw [stage] at balanced
    simp only [Stage.proposed] at balanced
    omega

end Whole

end Ties

end Proposals
