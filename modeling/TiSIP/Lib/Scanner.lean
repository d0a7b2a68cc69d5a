import Mathlib.Data.List.TakeWhile
import Mathlib.Data.List.Infix

/-- A scanner reads a value off the front of its input, or fails. -/
abbrev Scanner (σ α : Type) : Type := StateT (List σ) Option α

namespace Scanner

variable {σ α β : Type}

def current : Scanner σ (Option σ) := fun input => some (input.head?, input)

def item (admits : σ → Bool) : Scanner σ σ := fun input =>
  match input with
  | [] => none
  | symbol :: rest => if admits symbol then some (symbol, rest) else none

def many (admits : σ → Bool) : Scanner σ (List σ) := fun input =>
  some (input.takeWhile admits, input.dropWhile admits)

def many1 (admits : σ → Bool) : Scanner σ (List σ) := fun input =>
  if input.head?.any admits then some (input.takeWhile admits, input.dropWhile admits) else none

def peekMany (admits : σ → Bool) : Scanner σ (List σ × Option σ) := fun input =>
  if input.isEmpty then none
  else some ((input.takeWhile admits, (input.dropWhile admits).head?), input)

def upTo [DecidableEq σ] (stop : σ) : Scanner σ (List σ) := fun input =>
  if input.isEmpty then none
  else some (input.takeWhile fun symbol => symbol != stop, input.dropWhile fun symbol => symbol != stop)

section Loop

variable [DecidableEq σ] (symbol : σ) (body : α → Scanner σ α)

def loop : Nat → α → Scanner σ α
  | 0, value => pure value
  | fuel + 1, value => do
    if (← current) = some symbol then
      let next ← body value
      loop fuel next
    else pure value

-- A body that takes something each time runs at most once for each symbol of the input.
def whileNext (value : α) : Scanner σ α := fun input => (loop symbol body input.length value).run input

end Loop

@[simp]
theorem run_current (input : List σ) : (current : Scanner σ (Option σ)).run input = some (input.head?, input) := rfl

theorem run_bind (first : Scanner σ α) (second : α → Scanner σ β) (input : List σ) :
    (first >>= second).run input = (first.run input).bind fun read => (second read.1).run read.2 := rfl

@[simp]
theorem run_pure (value : α) (input : List σ) : (pure value : Scanner σ α).run input = some (value, input) := rfl

theorem run_item (admits : σ → Bool) (input : List σ) :
    (item admits).run input =
      match input with
      | [] => none
      | symbol :: rest => if admits symbol then some (symbol, rest) else none := rfl

theorem run_item_eq_some {admits : σ → Bool} {input rest : List σ} {symbol : σ} :
    (item admits).run input = some (symbol, rest) ↔ input = symbol :: rest ∧ admits symbol = true := by
  rw [run_item]
  constructor
  · intro reads
    split at reads
    · cases reads
    · split at reads
      · rename_i admitted
        obtain ⟨rfl, rfl⟩ := Prod.mk.inj (Option.some.inj reads)
        exact ⟨rfl, admitted⟩
      · cases reads
  · intro ⟨same, admitted⟩
    simp [same, admitted]

theorem run_many (admits : σ → Bool) (input : List σ) :
    (many admits).run input = some (input.takeWhile admits, input.dropWhile admits) := rfl

theorem run_many1 (admits : σ → Bool) (input : List σ) :
    (many1 admits).run input =
      if input.head?.any admits then some (input.takeWhile admits, input.dropWhile admits) else none := rfl

theorem run_peekMany (admits : σ → Bool) (input : List σ) :
    (peekMany admits).run input =
      if input.isEmpty then none
      else some ((input.takeWhile admits, (input.dropWhile admits).head?), input) := rfl

theorem run_upTo [DecidableEq σ] (stop : σ) (input : List σ) :
    (upTo stop).run input =
      if input.isEmpty then none
      else some (input.takeWhile fun symbol => symbol != stop, input.dropWhile fun symbol => symbol != stop) := rfl

theorem run_bind_eq_some {first : Scanner σ α} {second : α → Scanner σ β} {input rest : List σ} {value : β} :
    (first >>= second).run input = some (value, rest) ↔
      ∃ before middle, first.run input = some (before, middle) ∧ (second before).run middle = some (value, rest) := by
  rw [run_bind, Option.bind_eq_some_iff]
  constructor
  · intro ⟨read, reads, continues⟩
    exact ⟨read.1, read.2, reads, continues⟩
  · intro ⟨before, middle, reads, continues⟩
    exact ⟨(before, middle), reads, continues⟩

theorem run_thenPure_eq_some {first : Scanner σ α} {image : α → β} {input rest : List σ} {result : β} :
    (do let value ← first; pure (image value)).run input = some (result, rest) ↔
      ∃ value, first.run input = some (value, rest) ∧ image value = result := by
  constructor
  · intro reads
    obtain ⟨value, middle, read, finished⟩ := run_bind_eq_some.mp reads
    simp only [run_pure, Option.some.injEq, Prod.mk.injEq] at finished
    obtain ⟨same, rfl⟩ := finished
    exact ⟨value, read, same⟩
  · intro ⟨value, read, same⟩
    exact run_bind_eq_some.mpr ⟨value, rest, read, by rw [run_pure, same]⟩

section Ends

def Ends (last : σ → Prop) (scanner : Scanner σ α) : Prop :=
  ∀ input value rest, scanner.run input = some (value, rest) →
    ∃ taken symbol, input = taken ++ symbol :: rest ∧ last symbol

def MayEnd (last : σ → Prop) (scanner : Scanner σ α) : Prop :=
  ∀ input value rest, scanner.run input = some (value, rest) →
    rest = input ∨ ∃ taken symbol, input = taken ++ symbol :: rest ∧ last symbol

variable {last other : σ → Prop} {first : Scanner σ α} {second : α → Scanner σ β}

theorem Ends.mayEnd (ends : Ends last first) : MayEnd last first :=
  fun input value rest reads => .inr (ends input value rest reads)

theorem Ends.mono (ends : Ends last first) (weaker : ∀ symbol, last symbol → other symbol) : Ends other first := by
  intro input value rest reads
  obtain ⟨taken, symbol, same, holds⟩ := ends input value rest reads
  exact ⟨taken, symbol, same, weaker symbol holds⟩

theorem MayEnd.mono (ends : MayEnd last first) (weaker : ∀ symbol, last symbol → other symbol) :
    MayEnd other first := by
  intro input value rest reads
  rcases ends input value rest reads with same | ⟨taken, symbol, same, holds⟩
  · exact .inl same
  · exact .inr ⟨taken, symbol, same, weaker symbol holds⟩

theorem Ends.shorter (ends : Ends last first) {input rest : List σ} {value : α}
    (reads : first.run input = some (value, rest)) : rest.length < input.length := by
  obtain ⟨taken, symbol, same, -⟩ := ends input value rest reads
  have lengths := congrArg List.length same
  simp only [List.length_append, List.length_cons] at lengths
  omega

theorem MayEnd.done (value : α) : MayEnd last (pure value : Scanner σ α) := by
  intro input read rest reads
  simp only [run_pure, Option.some.injEq, Prod.mk.injEq] at reads
  exact .inl reads.2.symm

theorem MayEnd.fail : MayEnd last (failure : Scanner σ α) := by
  intro input read rest reads
  cases reads

theorem MayEnd.current : MayEnd last (current : Scanner σ (Option σ)) := by
  intro input read rest reads
  simp only [run_current, Option.some.injEq, Prod.mk.injEq] at reads
  exact .inl reads.2.symm

theorem Ends.item (admits : σ → Bool) : Ends (fun symbol => admits symbol = true) (item admits) := by
  intro input symbol rest reads
  obtain ⟨same, admitted⟩ := run_item_eq_some.mp reads
  exact ⟨[], symbol, same, admitted⟩

theorem MayEnd.many (admits : σ → Bool) : MayEnd (fun symbol => admits symbol = true) (many admits) := by
  intro input value rest reads
  simp only [run_many, Option.some.injEq, Prod.mk.injEq] at reads
  have both := List.takeWhile_append_dropWhile (p := admits) (l := input)
  rw [reads.1, reads.2] at both
  rcases List.eq_nil_or_concat value with rfl | ⟨taken, symbol, rfl⟩
  · exact .inl (by simpa using both)
  · have admitted : admits symbol = true := by
      apply List.mem_takeWhile_imp (l := input)
      simp [reads.1]
    exact .inr ⟨taken, symbol, by simpa using both.symm, admitted⟩

theorem Ends.many1 (admits : σ → Bool) : Ends (fun symbol => admits symbol = true) (many1 admits) := by
  intro input value rest reads
  rw [run_many1] at reads
  split at reads
  · rename_i admitted
    rcases MayEnd.many admits input value rest reads with same | ends
    · simp only [Option.some.injEq, Prod.mk.injEq, same] at reads
      cases input with
      | nil => cases admitted
      | cons symbol tail =>
        have head : admits symbol = true := by simpa using admitted
        have lengths := congrArg List.length reads.2
        have fewer := (List.dropWhile_sublist (l := tail) admits).length_le
        simp only [List.dropWhile_cons, head, if_true, List.length_cons] at lengths
        omega
    · exact ends
  · cases reads

theorem peekMany_rest {admits : σ → Bool} {input rest : List σ} {read : List σ × Option σ}
    (reads : (peekMany admits).run input = some (read, rest)) : rest = input := by
  rw [run_peekMany] at reads
  split at reads
  · cases reads
  · exact (Prod.mk.inj (Option.some.inj reads)).2.symm

theorem mem_of_peekMany {admits : σ → Bool} {input rest run : List σ} {next : σ}
    (reads : (peekMany admits).run input = some ((run, some next), rest)) :
    next ∈ input ∧ admits next = false := by
  rw [run_peekMany] at reads
  split at reads
  · cases reads
  · simp only [Option.some.injEq, Prod.mk.injEq] at reads
    obtain ⟨⟨-, head⟩, -⟩ := reads
    obtain ⟨tail, left⟩ := List.head?_eq_some_iff.mp head
    constructor
    · apply (List.dropWhile_sublist admits).subset
      simp [left]
    · have refused := List.head?_dropWhile_not admits input
      simpa [head] using refused

theorem MayEnd.peekMany (admits : σ → Bool) : MayEnd last (peekMany admits) :=
  fun _ _ _ reads => .inl (peekMany_rest reads)

theorem MayEnd.upTo [DecidableEq σ] (stop : σ) : MayEnd (fun symbol => symbol ≠ stop) (upTo stop) := by
  intro input value rest reads
  rw [run_upTo] at reads
  split at reads
  · cases reads
  · have ends := MayEnd.many (fun symbol => symbol != stop) input value rest reads
    simpa using ends

theorem Ends.bind (before : Ends last first) (after : ∀ value, MayEnd last (second value)) :
    Ends last (first >>= second) := by
  intro input value rest reads
  obtain ⟨middle, left, reads, continues⟩ := run_bind_eq_some.mp reads
  obtain ⟨taken, symbol, same, holds⟩ := before input middle left reads
  rcases after middle left value rest continues with rfl | ⟨more, final, later, holds⟩
  · exact ⟨taken, symbol, same, holds⟩
  · exact ⟨taken ++ symbol :: more, final, by simp [same, later], holds⟩

theorem MayEnd.thenEnds (before : MayEnd (fun _ => True) first) (after : ∀ value, Ends last (second value)) :
    Ends last (first >>= second) := by
  intro input value rest reads
  obtain ⟨middle, left, reads, continues⟩ := run_bind_eq_some.mp reads
  obtain ⟨taken, symbol, same, holds⟩ := after middle left value rest continues
  rcases before input middle left reads with rfl | ⟨earlier, passed, whole, -⟩
  · exact ⟨taken, symbol, same, holds⟩
  · exact ⟨earlier ++ passed :: taken, symbol, by simp [whole, same], holds⟩

theorem MayEnd.bind (before : MayEnd last first) (after : ∀ value, MayEnd last (second value)) :
    MayEnd last (first >>= second) := by
  intro input value rest reads
  obtain ⟨middle, left, reads, continues⟩ := run_bind_eq_some.mp reads
  rcases after middle left value rest continues with rfl | ⟨taken, symbol, same, holds⟩
  · exact before input middle rest reads
  · rcases before input middle left reads with rfl | ⟨earlier, passed, whole, -⟩
    · exact .inr ⟨taken, symbol, same, holds⟩
    · exact .inr ⟨earlier ++ passed :: taken, symbol, by simp [whole, same], holds⟩

theorem Ends.ite {condition : Prop} [Decidable condition] {yes no : Scanner σ α} (taken : Ends last yes)
    (left : Ends last no) : Ends last (if condition then yes else no) := by
  split
  · exact taken
  · exact left

theorem MayEnd.ite {condition : Prop} [Decidable condition] {yes no : Scanner σ α} (taken : MayEnd last yes)
    (left : MayEnd last no) : MayEnd last (if condition then yes else no) := by
  split
  · exact taken
  · exact left

variable [DecidableEq σ]

theorem MayEnd.takeNext {symbol : σ} {admits : σ → Bool} {yes no : Scanner σ α} (holds : last symbol)
    (taken : MayEnd last yes) (left : MayEnd last no) :
    MayEnd last (do
      if (← Scanner.current) = some symbol then
        let _ ← Scanner.item admits
        yes
      else no) := by
  intro input value rest reads
  rw [run_bind, run_current, Option.bind_some] at reads
  split at reads
  · rename_i next
    have takes : Ends last (Scanner.item fun other => admits other && other == symbol) :=
      (Ends.item _).mono fun other admitted => by
        rw [eq_of_beq (Bool.and_eq_true_iff.mp admitted).2]
        exact holds
    apply (takes.bind fun _ => taken).mayEnd input value rest
    obtain ⟨tail, same⟩ := List.head?_eq_some_iff.mp next
    simpa [run_bind, run_item, same] using reads
  · exact left input value rest reads

theorem Ends.upToItem (stop : σ) (admits : σ → Bool) :
    Ends (fun symbol => symbol = stop)
      (do let read ← Scanner.upTo stop; let _ ← Scanner.item admits; pure read) := by
  intro input value rest reads
  obtain ⟨read, left, before, after⟩ := run_bind_eq_some.mp reads
  obtain ⟨symbol, last, taken, finished⟩ := run_bind_eq_some.mp after
  obtain ⟨rfl, -⟩ := run_item_eq_some.mp taken
  simp only [run_pure, Option.some.injEq, Prod.mk.injEq] at finished
  rw [run_upTo] at before
  split at before
  · cases before
  · simp only [Option.some.injEq, Prod.mk.injEq] at before
    have both := List.takeWhile_append_dropWhile (p := fun other => other != stop) (l := input)
    have refused := List.head?_dropWhile_not (fun other => other != stop) input
    rw [before.1, before.2, finished.2] at both
    rw [before.2] at refused
    exact ⟨read, symbol, both.symm, by simpa using refused⟩

end Ends

section Contents

def Leaves (symbol : σ) (scanner : Scanner σ α) : Prop :=
  ∀ input value rest, symbol ∈ input → scanner.run input = some (value, rest) → symbol ∈ rest

def Needs (symbol : σ) (scanner : Scanner σ α) : Prop :=
  ∀ input value rest, scanner.run input = some (value, rest) → symbol ∈ input

variable {symbol : σ} {first : Scanner σ α} {second : α → Scanner σ β}

theorem Leaves.done (value : α) : Leaves symbol (pure value : Scanner σ α) := by
  intro input read rest member reads
  simp only [run_pure, Option.some.injEq, Prod.mk.injEq] at reads
  exact reads.2 ▸ member

theorem Leaves.bind (before : Leaves symbol first) (after : ∀ value, Leaves symbol (second value)) :
    Leaves symbol (first >>= second) := by
  intro input value rest member reads
  obtain ⟨middle, left, reads, continues⟩ := run_bind_eq_some.mp reads
  exact after middle left value rest (before input middle left member reads) continues

theorem Leaves.many1 {admits : σ → Bool} (refused : admits symbol = false) : Leaves symbol (many1 admits) := by
  intro input value rest member reads
  rw [run_many1] at reads
  split at reads
  · simp only [Option.some.injEq, Prod.mk.injEq] at reads
    rw [← List.takeWhile_append_dropWhile (p := admits) (l := input), reads.2] at member
    rcases List.mem_append.mp member with taken | left
    · simp [List.mem_takeWhile_imp taken] at refused
    · exact left
  · cases reads

theorem Leaves.takeNext [DecidableEq σ] {next : σ} {admits : σ → Bool} {yes no : Scanner σ α} (differs : symbol ≠ next)
    (taken : Leaves symbol yes) (left : Leaves symbol no) :
    Leaves symbol (do
      if (← current) = some next then
        let _ ← item admits
        yes
      else no) := by
  intro input value rest member reads
  rw [run_bind, run_current, Option.bind_some] at reads
  split at reads
  · rename_i head
    obtain ⟨tail, rfl⟩ := List.head?_eq_some_iff.mp head
    obtain ⟨head, middle, took, continues⟩ := run_bind_eq_some.mp reads
    obtain ⟨same, -⟩ := run_item_eq_some.mp took
    obtain ⟨rfl, rfl⟩ := List.cons.inj same
    have behind : symbol ∈ tail := by simpa [differs] using member
    exact taken tail value rest behind continues
  · exact left input value rest member reads

theorem Needs.bind (before : MayEnd (fun _ => True) first) (after : ∀ value, Needs symbol (second value)) :
    Needs symbol (first >>= second) := by
  intro input value rest reads
  obtain ⟨middle, left, reads, continues⟩ := run_bind_eq_some.mp reads
  have member := after middle left value rest continues
  rcases before input middle left reads with rfl | ⟨taken, passed, same, -⟩
  · exact member
  · simp [same, member]

theorem Needs.before (needs : Needs symbol first) : Needs symbol (first >>= second) := by
  intro input value rest reads
  obtain ⟨middle, left, reads, -⟩ := run_bind_eq_some.mp reads
  exact needs input middle left reads

theorem Needs.fail : Needs symbol (failure : Scanner σ α) := by
  intro input value rest reads
  cases reads

theorem Needs.ite {condition : Prop} [Decidable condition] {yes no : Scanner σ α} (taken : Needs symbol yes)
    (left : Needs symbol no) : Needs symbol (if condition then yes else no) := by
  split
  · exact taken
  · exact left

end Contents

section While

variable [DecidableEq σ] {symbol : σ} {body : α → Scanner σ α}

/-- Any fuel that covers the input gives the same run. -/
theorem loop_enough {last : σ → Prop} (takes : ∀ value, Ends last (body value)) {fuel : Nat} {input : List σ}
    (enough : input.length ≤ fuel) (value : α) :
    (loop symbol body fuel value).run input = (whileNext symbol body value).run input := by
  have agree : ∀ (first second : Nat) (input : List σ) (value : α), input.length ≤ first → input.length ≤ second →
      (loop symbol body first value).run input = (loop symbol body second value).run input := by
    intro first
    induction first with
    | zero =>
      intro second input value short _
      have empty : input = [] := List.length_eq_zero_iff.mp (by omega)
      cases second with
      | zero => rfl
      | succ second => simp [loop, empty]
    | succ first ih =>
      intro second input value short long
      cases second with
      | zero =>
        have empty : input = [] := List.length_eq_zero_iff.mp (by omega)
        simp [loop, empty]
      | succ second =>
        by_cases next : input.head? = some symbol
        · simp only [loop, run_bind, run_current, Option.bind_some, next, if_true]
          cases reads : (body value).run input with
          | none => rfl
          | some read =>
            have shorter := (takes value).shorter reads
            exact ih second read.2 read.1 (by omega) (by omega)
        · simp [loop, next]
  exact agree fuel input.length input value enough (Nat.le_refl _)

theorem whileNext_of_other {input : List σ} (other : input.head? ≠ some symbol) (value : α) :
    (whileNext symbol body value).run input = some (value, input) := by
  change (loop symbol body input.length value).run input = _
  cases input with
  | nil => rfl
  | cons head rest => simp [loop, show head ≠ symbol by simpa using other]

theorem whileNext_of_next {last : σ → Prop} (takes : ∀ value, Ends last (body value)) {input : List σ}
    (next : input.head? = some symbol) (value : α) :
    (whileNext symbol body value).run input = (body value >>= whileNext symbol body).run input := by
  change (loop symbol body input.length value).run input = _
  cases input with
  | nil => cases next
  | cons head rest =>
    simp only [List.length_cons, loop, run_bind, run_current, Option.bind_some, next, if_true]
    cases reads : (body value).run (head :: rest) with
    | none => rfl
    | some read =>
      have shorter := (takes value).shorter reads
      simp only [List.length_cons] at shorter
      exact loop_enough takes (by omega) read.1

theorem whileNext_stops {last : σ → Prop} (takes : ∀ value, Ends last (body value)) {input rest : List σ}
    {value final : α} (reads : (whileNext symbol body value).run input = some (final, rest)) :
    rest.head? ≠ some symbol := by
  generalize size : input.length = bound
  induction bound using Nat.strong_induction_on generalizing input value with
  | _ bound ih =>
    by_cases next : input.head? = some symbol
    · rw [whileNext_of_next takes next] at reads
      obtain ⟨middle, left, first, continues⟩ := run_bind_eq_some.mp reads
      have shorter := (takes value).shorter first
      exact ih left.length (by omega) continues rfl
    · rw [whileNext_of_other next] at reads
      simp only [Option.some.injEq, Prod.mk.injEq] at reads
      rwa [← reads.2]

theorem MayEnd.whileNext {last : σ → Prop} (takes : ∀ value, Ends last (body value)) (value : α) :
    MayEnd last (whileNext symbol body value) := by
  intro input final rest reads
  generalize size : input.length = bound
  induction bound using Nat.strong_induction_on generalizing input value with
  | _ bound ih =>
    by_cases next : input.head? = some symbol
    · rw [whileNext_of_next takes next] at reads
      obtain ⟨middle, left, first, continues⟩ := run_bind_eq_some.mp reads
      have shorter := (takes value).shorter first
      obtain ⟨taken, final, same, holds⟩ := takes value input middle left first
      rcases ih left.length (by omega) middle left continues rfl with rfl | ⟨later, end', whole, holds'⟩
      · exact .inr ⟨taken, final, same, holds⟩
      · exact .inr ⟨taken ++ final :: later, end', by simp [same, whole], holds'⟩
    · rw [whileNext_of_other next] at reads
      simp only [Option.some.injEq, Prod.mk.injEq] at reads
      exact .inl reads.2.symm

theorem whileNext_invariant {last : σ → Prop} (Holds : α → Prop) (takes : ∀ value, Ends last (body value))
    (preserved : ∀ value input next rest, Holds value → (body value).run input = some (next, rest) → Holds next)
    {input rest : List σ} {value final : α} (initial : Holds value)
    (reads : (whileNext symbol body value).run input = some (final, rest)) : Holds final := by
  generalize size : input.length = bound
  induction bound using Nat.strong_induction_on generalizing input value with
  | _ bound ih =>
    by_cases next : input.head? = some symbol
    · rw [whileNext_of_next takes next] at reads
      obtain ⟨middle, left, first, continues⟩ := run_bind_eq_some.mp reads
      have shorter := (takes value).shorter first
      exact ih left.length (by omega) (preserved value input middle left initial first) continues rfl
    · rw [whileNext_of_other next] at reads
      simp only [Option.some.injEq, Prod.mk.injEq] at reads
      rwa [← reads.1]

theorem whileNext_map {last : σ → Prop} {image : α → α} (takes : ∀ value, Ends last (body value))
    (commutes : ∀ value input,
      (body (image value)).run input = ((body value).run input).map fun read => (image read.1, read.2))
    (value : α) (input : List σ) :
    (whileNext symbol body (image value)).run input =
      ((whileNext symbol body value).run input).map fun read => (image read.1, read.2) := by
  generalize size : input.length = bound
  induction bound using Nat.strong_induction_on generalizing input value with
  | _ bound ih =>
    by_cases next : input.head? = some symbol
    · rw [whileNext_of_next takes next, whileNext_of_next takes next, run_bind, run_bind, commutes]
      cases reads : (body value).run input with
      | none => rfl
      | some read =>
        have shorter := (takes value).shorter reads
        exact ih read.2.length (by omega) read.1 read.2 rfl
    · rw [whileNext_of_other next, whileNext_of_other next]
      rfl

end While

section Steady

/-- On the inputs meant, the scanner reads from a longer input what it reads from the input
    alone, and leaves the added part where it was. -/
def SteadyOn (meant : List σ → Prop) (more : List σ) (scanner : Scanner σ α) : Prop :=
  ∀ input, meant input →
    scanner.run (input ++ more) = (scanner.run input).map fun read => (read.1, read.2 ++ more)

def Steady (more : List σ) (scanner : Scanner σ α) : Prop := SteadyOn (fun _ => True) more scanner

variable {more : List σ} {meant later : List σ → Prop} {first : Scanner σ α} {second : α → Scanner σ β}

theorem Steady.on (steady : Steady more first) : SteadyOn meant more first :=
  fun input _ => steady input trivial

theorem Steady.done (value : α) : Steady more (pure value : Scanner σ α) :=
  fun _ _ => rfl

theorem Steady.fail : Steady more (failure : Scanner σ α) :=
  fun _ _ => rfl

theorem SteadyOn.bind (later : α → List σ → Prop) (before : SteadyOn meant more first)
    (leaves : ∀ input value rest, meant input → first.run input = some (value, rest) → later value rest)
    (after : ∀ value, SteadyOn (later value) more (second value)) : SteadyOn meant more (first >>= second) := by
  intro input holds
  rw [run_bind, run_bind, before input holds]
  cases reads : first.run input with
  | none => rfl
  | some read => exact after read.1 read.2 (leaves input read.1 read.2 holds reads)

theorem SteadyOn.andThen (before : SteadyOn meant more first) (after : ∀ value, Steady more (second value)) :
    SteadyOn meant more (first >>= second) :=
  SteadyOn.bind (fun _ _ => True) before (fun _ _ _ _ _ => trivial) after

theorem Steady.bind (before : Steady more first) (after : ∀ value, Steady more (second value)) :
    Steady more (first >>= second) :=
  SteadyOn.andThen before after

theorem SteadyOn.mono (steady : SteadyOn later more first) (weaker : ∀ input, meant input → later input) :
    SteadyOn meant more first :=
  fun input holds => steady input (weaker input holds)

theorem SteadyOn.item (admits : σ → Bool) : SteadyOn (fun input => input ≠ []) more (item admits) := by
  intro input nonempty
  obtain ⟨symbol, rest, rfl⟩ := List.exists_cons_of_ne_nil nonempty
  by_cases admitted : admits symbol = true
  · simp [run_item, admitted]
  · simp [run_item, admitted]

theorem takeWhile_append_blocked {admits : σ → Bool} (blocked : more.takeWhile admits = []) (input : List σ) :
    (input ++ more).takeWhile admits = input.takeWhile admits := by
  rw [List.takeWhile_append, blocked, List.append_nil]
  split
  · rename_i whole
    exact ((List.takeWhile_prefix admits).eq_of_length whole).symm
  · rfl

theorem dropWhile_append_blocked {admits : σ → Bool} (blocked : more.takeWhile admits = []) (input : List σ) :
    (input ++ more).dropWhile admits = input.dropWhile admits ++ more := by
  have stays : more.dropWhile admits = more := by
    have both := List.takeWhile_append_dropWhile (p := admits) (l := more)
    rwa [blocked, List.nil_append] at both
  rw [List.dropWhile_append, stays]
  split
  · rename_i whole
    rw [List.isEmpty_iff.mp whole, List.nil_append]
  · rfl

theorem Steady.many {admits : σ → Bool} (blocked : more.takeWhile admits = []) : Steady more (many admits) := by
  intro input _
  simp [run_many, takeWhile_append_blocked blocked, dropWhile_append_blocked blocked]

theorem Steady.many1 {admits : σ → Bool} (blocked : more.takeWhile admits = []) : Steady more (many1 admits) := by
  intro input _
  have heads : (input ++ more).head?.any admits = input.head?.any admits := by
    cases input with
    | cons symbol rest => rfl
    | nil =>
      cases more with
      | nil => rfl
      | cons symbol rest =>
        by_cases admitted : admits symbol = true
        · simp [admitted] at blocked
        · simpa using admitted
  by_cases admitted : input.head?.any admits = true
  · simp only [run_many1, heads, admitted, takeWhile_append_blocked blocked,
      dropWhile_append_blocked blocked, if_true, Option.map_some]
  · simp only [run_many1, heads, admitted, if_false, Option.map_none, Bool.false_eq_true]

theorem takeWhile_append_stopped {admits : σ → Bool} {input : List σ} (stop : ∃ symbol ∈ input, admits symbol = false)
    (more : List σ) : (input ++ more).takeWhile admits = input.takeWhile admits := by
  obtain ⟨symbol, member, stops⟩ := stop
  rw [List.takeWhile_append, if_neg]
  intro whole
  have all := (List.takeWhile_prefix admits).eq_of_length whole
  rw [List.takeWhile_eq_self_iff] at all
  simp [all symbol member] at stops

theorem dropWhile_append_stopped {admits : σ → Bool} {input : List σ} (stop : ∃ symbol ∈ input, admits symbol = false)
    (more : List σ) : (input ++ more).dropWhile admits = input.dropWhile admits ++ more := by
  obtain ⟨symbol, member, stops⟩ := stop
  rw [List.dropWhile_append, if_neg]
  intro whole
  have all := List.dropWhile_eq_nil_iff.mp (List.isEmpty_iff.mp whole)
  simp [all symbol member] at stops

theorem SteadyOn.many1 (admits : σ → Bool) :
    SteadyOn (fun input => ∃ symbol ∈ input, admits symbol = false) more (many1 admits) := by
  intro input stop
  have heads : (input ++ more).head? = input.head? := by
    obtain ⟨symbol, member, -⟩ := stop
    cases input with
    | nil => cases member
    | cons head rest => rfl
  by_cases admitted : input.head?.any admits = true
  · simp [run_many1, heads, admitted, takeWhile_append_stopped stop, dropWhile_append_stopped stop]
  · simp [run_many1, heads, admitted]

theorem SteadyOn.peekMany (admits : σ → Bool) :
    SteadyOn (fun input => ∃ symbol ∈ input, admits symbol = false) more (peekMany admits) := by
  intro input stop
  have left : input.dropWhile admits ≠ [] := by
    obtain ⟨symbol, member, stops⟩ := stop
    intro none
    simp [List.dropWhile_eq_nil_iff.mp none symbol member] at stops
  have nonempty : input ≠ [] := by
    intro none
    simp [none] at left
  have heads : (input.dropWhile admits ++ more).head? = (input.dropWhile admits).head? := by
    obtain ⟨head, tail, same⟩ := List.exists_cons_of_ne_nil left
    simp [same]
  simp [run_peekMany, nonempty, takeWhile_append_stopped stop, dropWhile_append_stopped stop, heads]

theorem Steady.ifAdmits {admits : σ → Bool} {yes no : Scanner σ α} (refused : more.head?.any admits = false)
    (taken : Steady more yes) (left : Steady more no) :
    Steady more (do if (← current).any admits then yes else no) := by
  intro input _
  cases input with
  | nil => simpa [run_bind, refused] using left [] trivial
  | cons symbol rest =>
    by_cases admitted : admits symbol = true
    · simpa [run_bind, admitted] using taken (symbol :: rest) trivial
    · simpa [run_bind, admitted] using left (symbol :: rest) trivial

theorem SteadyOn.current : SteadyOn (fun input => input ≠ []) more (current : Scanner σ (Option σ)) := by
  intro input nonempty
  obtain ⟨symbol, rest, rfl⟩ := List.exists_cons_of_ne_nil nonempty
  rfl

variable [DecidableEq σ]

theorem Steady.ifNext {symbol : σ} {yes no : Scanner σ α} (differs : more.head? ≠ some symbol)
    (taken : SteadyOn (fun input => input.head? = some symbol) more yes) (left : Steady more no) :
    Steady more (do if (← current) = some symbol then yes else no) := by
  intro input _
  cases input with
  | nil => simpa [run_bind, differs] using left [] trivial
  | cons head rest =>
    by_cases same : head = symbol
    · simpa [run_bind, same] using taken (head :: rest) (by simp [same])
    · simpa [run_bind, same] using left (head :: rest) trivial

theorem SteadyOn.upTo (stop : σ) : SteadyOn (fun input => stop ∈ input) more (upTo stop) := by
  intro input inside
  have found : ∃ symbol ∈ input, (symbol != stop) = false := ⟨stop, inside, by simp⟩
  have nonempty : input ≠ [] := List.ne_nil_of_mem inside
  simp [run_upTo, nonempty, takeWhile_append_stopped found, dropWhile_append_stopped found]

theorem dropWhile_bne_of_absent {stop : σ} {text : List σ} (absent : stop ∉ text) :
    text.dropWhile (fun symbol => symbol != stop) = [] := by
  apply List.dropWhile_eq_nil_iff.mpr
  intro symbol member
  have other : symbol ≠ stop := fun same => absent (same ▸ member)
  simpa using other

theorem upToItem_of_absent {stop : σ} {admits : σ → Bool} {text : List σ} (absent : stop ∉ text) :
    (do let read ← upTo stop; let _ ← item admits; pure read : Scanner σ (List σ)).run text = none := by
  rw [run_bind, run_upTo]
  split
  · rfl
  · simp [run_item, dropWhile_bne_of_absent absent]

theorem Steady.upToItem {stop : σ} {admits : σ → Bool} (absent : stop ∉ more) :
    Steady more (do let read ← Scanner.upTo stop; let _ ← Scanner.item admits; pure read) := by
  intro input _
  by_cases inside : stop ∈ input
  · have leaves : ∀ text value rest, stop ∈ text → (Scanner.upTo stop).run text = some (value, rest) → rest ≠ [] := by
      intro text value rest member reads nothing
      have nonempty : text ≠ [] := List.ne_nil_of_mem member
      simp only [run_upTo, List.isEmpty_iff, nonempty, if_false, Option.some.injEq, Prod.mk.injEq, nothing] at reads
      simpa using List.dropWhile_eq_nil_iff.mp reads.2 stop member
    have both : SteadyOn (fun text => stop ∈ text) more
        (do let read ← Scanner.upTo stop; let _ ← Scanner.item admits; pure read) := by
      apply SteadyOn.bind (fun _ rest => rest ≠ []) (SteadyOn.upTo stop) leaves
      intro value
      exact (SteadyOn.item admits).andThen fun _ => Steady.done value
    exact both input inside
  · rw [upToItem_of_absent inside, upToItem_of_absent (by simp [inside, absent])]
    rfl

theorem whileNext_append {symbol : σ} {body : α → Scanner σ α} {last : σ → Prop}
    (takes : ∀ value, Ends last (body value))
    (steady : ∀ value, SteadyOn (fun input => input.head? = some symbol) more (body value)) (value : α)
    (input : List σ) :
    (whileNext symbol body value).run (input ++ more) =
      ((whileNext symbol body value).run input).bind fun read =>
        (whileNext symbol body read.1).run (read.2 ++ more) := by
  generalize size : input.length = bound
  induction bound using Nat.strong_induction_on generalizing input value with
  | _ bound ih =>
    by_cases next : input.head? = some symbol
    · have longer : (input ++ more).head? = some symbol := by simp [next]
      rw [whileNext_of_next takes next, whileNext_of_next takes longer, run_bind, run_bind, steady value input next]
      cases reads : (body value).run input with
      | none => rfl
      | some read =>
        have shorter := (takes value).shorter reads
        exact ih read.2.length (by omega) read.1 read.2 rfl
    · rw [whileNext_of_other next value]
      rfl

theorem Steady.whileNext {symbol : σ} {body : α → Scanner σ α} {last : σ → Prop}
    (takes : ∀ value, Ends last (body value))
    (steady : ∀ value, SteadyOn (fun input => input.head? = some symbol) more (body value))
    (differs : more.head? ≠ some symbol) (value : α) : Steady more (whileNext symbol body value) := by
  intro input _
  rw [whileNext_append takes steady]
  cases reads : (Scanner.whileNext symbol body value).run input with
  | none => rfl
  | some read =>
    have stopped := whileNext_stops takes reads
    have other : (read.2 ++ more).head? ≠ some symbol := by
      cases rest : read.2 with
      | nil => simpa using differs
      | cons head tail => simpa [rest] using stopped
    exact whileNext_of_other other read.1

end Steady

end Scanner
