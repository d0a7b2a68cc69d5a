import TiSIP.Lib.Scanner

/-- What is printed so far and the room left after it. -/
structure Sheet (σ : Type) where
  printed : List σ
  room : Nat
  deriving DecidableEq

inductive Trouble
  | refused
  | overrun
  deriving DecidableEq

/-- A printer writes at the place reached; it may give up, or write past the end of the room. -/
abbrev Printer (σ α : Type) : Type := StateT (Sheet σ) (Except Trouble) α

structure Piece (σ : Type) where
  text : List σ
  spare : Nat
  deriving DecidableEq

variable {σ α β : Type}

def Sheet.blank (room : Nat) : Sheet σ := { printed := [], room }

def Sheet.after (sheet : Sheet σ) (text : List σ) : Sheet σ where
  printed := sheet.printed ++ text
  room := sheet.room - text.length

theorem Sheet.after_nil (sheet : Sheet σ) : sheet.after [] = sheet := by
  simp [Sheet.after]

theorem Sheet.after_after (sheet : Sheet σ) (first second : List σ) :
    (sheet.after first).after second = sheet.after (first ++ second) := by
  simp [Sheet.after, Nat.sub_sub]

namespace Printer

def room : Printer σ Nat := fun sheet => .ok (sheet.room, sheet)

def refuse : Printer σ α := fun _ => .error .refused

def write (text : List σ) : Printer σ Unit := fun sheet =>
  if text.length ≤ sheet.room then .ok ((), sheet.after text) else .error .overrun

def touch (places : Nat) : Printer σ Unit := fun sheet =>
  if places ≤ sheet.room then .ok ((), sheet) else .error .overrun

theorem run_bind (first : Printer σ α) (second : α → Printer σ β) (sheet : Sheet σ) :
    (first >>= second).run sheet =
      match first.run sheet with
      | .ok read => (second read.1).run read.2
      | .error trouble => .error trouble := by
  change Except.bind (first.run sheet) _ = _
  cases first.run sheet with
  | error trouble => rfl
  | ok read => rfl

@[simp]
theorem run_pure (value : α) (sheet : Sheet σ) : (pure value : Printer σ α).run sheet = .ok (value, sheet) := rfl

theorem run_bind_room (second : Nat → Printer σ α) (sheet : Sheet σ) :
    (room >>= second).run sheet = (second sheet.room).run sheet := rfl

theorem run_refuse (sheet : Sheet σ) : (refuse : Printer σ α).run sheet = .error .refused := rfl

theorem run_write (text : List σ) (sheet : Sheet σ) :
    (write text).run sheet = if text.length ≤ sheet.room then .ok ((), sheet.after text) else .error .overrun := rfl

theorem run_touch (places : Nat) (sheet : Sheet σ) :
    (touch places).run sheet = if places ≤ sheet.room then .ok ((), sheet) else .error .overrun := rfl

section Fits

def textOf (pieces : List (Piece σ)) : List σ := pieces.flatMap Piece.text

def Fits : List (Piece σ) → Nat → Prop
  | [], _ => True
  | piece :: rest, room => piece.text.length + piece.spare ≤ room ∧ Fits rest (room - piece.text.length)

def decidableFits : (pieces : List (Piece σ)) → (room : Nat) → Decidable (Fits pieces room)
  | [], _ => inferInstanceAs (Decidable True)
  | piece :: rest, room =>
    have := decidableFits rest (room - piece.text.length)
    inferInstanceAs (Decidable (_ ∧ _))

instance (pieces : List (Piece σ)) (room : Nat) : Decidable (Fits pieces room) := decidableFits pieces room

@[simp]
theorem textOf_nil : textOf ([] : List (Piece σ)) = [] := rfl

@[simp]
theorem textOf_cons (piece : Piece σ) (rest : List (Piece σ)) : textOf (piece :: rest) = piece.text ++ textOf rest := rfl

@[simp]
theorem textOf_append (first second : List (Piece σ)) : textOf (first ++ second) = textOf first ++ textOf second :=
  List.flatMap_append

theorem fits_append {first second : List (Piece σ)} {room : Nat} :
    Fits (first ++ second) room ↔ Fits first room ∧ Fits second (room - (textOf first).length) := by
  induction first generalizing room with
  | nil => simp [Fits]
  | cons piece rest ih =>
    rw [List.cons_append, Fits, Fits, ih, textOf_cons, List.length_append, Nat.sub_sub, and_assoc]

theorem Fits.length_le {pieces : List (Piece σ)} {room : Nat} (fits : Fits pieces room) :
    (textOf pieces).length ≤ room := by
  induction pieces generalizing room with
  | nil => simp
  | cons piece rest ih =>
    have later := ih fits.2
    have here := fits.1
    rw [textOf_cons, List.length_append]
    omega

theorem fits_of_spare {pieces : List (Piece σ)} {room most : Nat} (bound : ∀ piece ∈ pieces, piece.spare ≤ most)
    (enough : (textOf pieces).length + most ≤ room) : Fits pieces room := by
  induction pieces generalizing room with
  | nil => trivial
  | cons piece rest ih =>
    rw [textOf_cons, List.length_append] at enough
    have here := bound piece List.mem_cons_self
    constructor
    · omega
    · apply ih fun other member => bound other (List.mem_cons_of_mem _ member)
      omega

def Asks (most : Nat) (piece : Piece σ) : Prop := piece.spare ≤ most ∧ (piece.spare = 0 → piece.text ≠ [])

def AllAsk (most : Nat) (pieces : List (Piece σ)) : Prop := ∀ piece ∈ pieces, Asks most piece

theorem AllAsk.nil {most : Nat} : AllAsk most ([] : List (Piece σ)) := by
  simp [AllAsk]

theorem AllAsk.cons {most : Nat} {piece : Piece σ} {rest : List (Piece σ)} (here : Asks most piece)
    (later : AllAsk most rest) : AllAsk most (piece :: rest) := by
  intro other member
  rcases List.mem_cons.mp member with rfl | member
  · exact here
  · exact later other member

theorem AllAsk.append {most : Nat} {first second : List (Piece σ)} (left : AllAsk most first)
    (right : AllAsk most second) : AllAsk most (first ++ second) := by
  intro piece member
  rcases List.mem_append.mp member with member | member
  · exact left piece member
  · exact right piece member

theorem AllAsk.ite {most : Nat} {condition : Prop} [Decidable condition] {first second : List (Piece σ)}
    (yes : condition → AllAsk most first) (no : AllAsk most second) :
    AllAsk most (if condition then first else second) := by
  split
  · rename_i holds
    exact yes holds
  · exact no

theorem fits_exactly {pieces : List (Piece σ)} {final : Piece σ} (modest : AllAsk 1 pieces)
    (last : pieces.getLast? = some final) (none : final.spare = 0) : Fits pieces (textOf pieces).length := by
  induction pieces with
  | nil => trivial
  | cons piece rest ih =>
    have here := modest piece List.mem_cons_self
    have later : AllAsk 1 rest := fun other member => modest other (List.mem_cons_of_mem _ member)
    rw [Fits, textOf_cons, List.length_append, Nat.add_sub_cancel_left]
    cases rest with
    | nil =>
      have same : piece = final := by simpa using last
      simp [same, none, Fits]
    | cons other others =>
      have after : (other :: others).getLast? = some final := by simpa using last
      have inside := List.mem_of_getLast? after
      have nonempty : textOf (other :: others) ≠ [] := by
        intro empty
        rw [textOf, List.flatMap_eq_nil_iff] at empty
        exact (later final inside).2 none (empty final inside)
      have positive := List.length_pos_iff.mpr nonempty
      have spare := here.1
      constructor
      · omega
      · exact ih later after

theorem Fits.length_lt {pieces : List (Piece σ)} {room : Nat} (fits : Fits pieces room)
    (asks : ∃ piece, pieces.getLast? = some piece ∧ 0 < piece.spare) : (textOf pieces).length < room := by
  obtain ⟨piece, last, spare⟩ := asks
  obtain ⟨before, rfl⟩ := List.getLast?_eq_some_iff.mp last
  obtain ⟨first, second⟩ := fits_append.mp fits
  have within := first.length_le
  have room := second.1
  rw [textOf_append, List.length_append, textOf_cons, textOf_nil, List.append_nil]
  omega

end Fits

section Prints

/-- The printer writes the pieces one after the other, and gives up where one finds too little room. -/
def Prints (printer : Printer σ Unit) (pieces : List (Piece σ)) : Prop :=
  ∀ sheet, printer.run sheet =
    if Fits pieces sheet.room then .ok ((), sheet.after (textOf pieces)) else .error .refused

variable {first second printer : Printer σ Unit} {before after pieces : List (Piece σ)}

theorem Prints.done : Prints (pure () : Printer σ Unit) [] := by
  intro sheet
  have fits : Fits ([] : List (Piece σ)) sheet.room := trivial
  rw [run_pure, if_pos fits, textOf_nil, Sheet.after_nil]

theorem Prints.single {piece : Piece σ}
    (runs : ∀ sheet, printer.run sheet = if piece.text.length + piece.spare ≤ sheet.room then
      .ok ((), sheet.after piece.text) else .error .refused) : Prints printer [piece] := by
  intro sheet
  simp [runs, Fits]

theorem Prints.bind (left : Prints first before) (right : Prints second after) :
    Prints (first >>= fun _ => second) (before ++ after) := by
  intro sheet
  rw [run_bind, left]
  by_cases fits : Fits before sheet.room
  · rw [if_pos fits]
    simp only [right (sheet.after (textOf before)), Sheet.after_after, textOf_append, fits_append, fits, true_and]
    rfl
  · rw [if_neg fits, if_neg fun both => fits (fits_append.mp both).1]

theorem Prints.ite_of {condition : Prop} [Decidable condition] (yes : condition → Prints first before)
    (no : Prints second after) :
    Prints (if condition then first else second) (if condition then before else after) := by
  split
  · rename_i holds
    exact yes holds
  · exact no

theorem Prints.ite {condition : Prop} [Decidable condition] (yes : Prints first before) (no : Prints second after) :
    Prints (if condition then first else second) (if condition then before else after) :=
  Prints.ite_of (fun _ => yes) no

theorem Prints.within (prints : Prints printer pieces) {sheet next : Sheet σ}
    (printed : printer.run sheet = .ok ((), next)) : next = sheet.after (textOf pieces) ∧
      (textOf pieces).length ≤ sheet.room := by
  rw [prints] at printed
  split at printed
  · rename_i fits
    exact ⟨(congrArg Prod.snd (Except.ok.inj printed)).symm, fits.length_le⟩
  · cases printed

theorem Prints.terminated (prints : Prints printer pieces) (sheet : Sheet σ) :
    (printer >>= fun _ => touch 1).run sheet =
      if Fits pieces sheet.room then
        if (textOf pieces).length < sheet.room then .ok ((), sheet.after (textOf pieces)) else .error .overrun
      else .error .refused := by
  rw [run_bind, prints]
  by_cases fits : Fits pieces sheet.room
  · have room : 1 ≤ sheet.room - (textOf pieces).length ↔ (textOf pieces).length < sheet.room := by omega
    simp only [if_pos fits, run_touch, Sheet.after, room]
  · rw [if_neg fits, if_neg fits]

end Prints

section Yields

/-- Where the printer is done, it has written the text; with so much room to spare it always is. -/
structure Yields (printer : Printer σ Unit) (text : List σ) (spare : Nat) : Prop where
  only : ∀ sheet next, printer.run sheet = .ok ((), next) → next = sheet.after text
  enough : ∀ sheet, text.length + spare ≤ sheet.room → printer.run sheet = .ok ((), sheet.after text)

variable {first second printer : Printer σ Unit} {before after : List σ} {pieces : List (Piece σ)} {spare : Nat}

theorem Prints.yields (prints : Prints printer pieces) (bound : ∀ piece ∈ pieces, piece.spare ≤ spare) :
    Yields printer (textOf pieces) spare where
  only _ _ printed := (prints.within printed).1
  enough sheet room := by
    rw [prints, if_pos (fits_of_spare bound room)]

theorem Yields.touch (places : Nat) : Yields (touch places : Printer σ Unit) [] places where
  only sheet next printed := by
    rw [run_touch] at printed
    split at printed
    · rw [Sheet.after_nil]
      exact (congrArg Prod.snd (Except.ok.inj printed)).symm
    · cases printed
  enough sheet room := by
    rw [run_touch, if_pos (by simpa using room), Sheet.after_nil]

theorem Yields.mono (yields : Yields printer before spare) {more : Nat} (wider : spare ≤ more) :
    Yields printer before more where
  only := yields.only
  enough sheet room := yields.enough sheet (by omega)

theorem Yields.bind (left : Yields first before spare) (right : Yields second after spare) :
    Yields (first >>= fun _ => second) (before ++ after) spare where
  only sheet next printed := by
    rw [run_bind] at printed
    cases reached : first.run sheet with
    | error trouble =>
      rw [reached] at printed
      cases printed
    | ok read =>
      rw [reached] at printed
      rw [right.only read.2 next printed, left.only sheet read.2 reached, Sheet.after_after]
  enough sheet room := by
    rw [List.length_append] at room
    have later : after.length + spare ≤ (sheet.after before).room := by
      simp only [Sheet.after]
      omega
    rw [run_bind, left.enough sheet (by omega)]
    simp only [right.enough _ later, Sheet.after_after]

end Yields

end Printer

namespace Scanner

def Reads (scanner : Scanner σ α) (text : List σ) (value : α) (Before : List σ → Prop) : Prop :=
  ∀ rest, Before rest → scanner.run (text ++ rest) = some (value, rest)

variable {first : Scanner σ α} {second : α → Scanner σ β} {text more : List σ} {value : α} {result : β}
  {Middle Before : List σ → Prop}

theorem Reads.done (value : α) : Reads (pure value : Scanner σ α) [] value Before :=
  fun _ _ => rfl

theorem Reads.bind (left : Reads first text value Middle) (right : Reads (second value) more result Before)
    (joins : ∀ rest, Before rest → Middle (more ++ rest)) : Reads (first >>= second) (text ++ more) result Before := by
  intro rest before
  rw [run_bind, List.append_assoc, left _ (joins rest before), Option.bind_some, right rest before]

theorem Reads.thenPure (reads : Reads first text value Before) (image : α → β) :
    Reads (do let value ← first; pure (image value)) text (image value) Before := by
  intro rest before
  rw [run_bind, reads rest before]
  rfl

theorem Reads.mono (reads : Reads first text value Middle) (weaker : ∀ rest, Before rest → Middle rest) :
    Reads first text value Before :=
  fun rest before => reads rest (weaker rest before)

theorem Reads.item {admits : σ → Bool} {symbol : σ} (admitted : admits symbol = true) :
    Reads (item admits) [symbol] symbol Before :=
  fun _ _ => run_item_eq_some.mpr ⟨rfl, admitted⟩

theorem Reads.many1 {admits : σ → Bool} (nonempty : text ≠ []) (admitted : ∀ symbol ∈ text, admits symbol = true) :
    Reads (many1 admits) text text fun rest => rest.head?.any admits = false := by
  intro rest stops
  have starts : (text ++ rest).head?.any admits = true := by
    obtain ⟨symbol, others, rfl⟩ := List.exists_cons_of_ne_nil nonempty
    exact admitted symbol List.mem_cons_self
  have stopped : rest.takeWhile admits = [] ∧ rest.dropWhile admits = rest := by
    cases rest with
    | nil => exact ⟨rfl, rfl⟩
    | cons symbol tail =>
      have refused : admits symbol = false := by simpa using stops
      simp [refused]
  rw [run_many1, if_pos starts, List.takeWhile_append_of_pos admitted, List.dropWhile_append_of_pos admitted,
    stopped.1, stopped.2, List.append_nil]

theorem Reads.ifNext [DecidableEq σ] {symbol : σ} {yes no : Scanner σ α} (next : text.head? = some symbol)
    (reads : Reads yes text value Before) :
    Reads (do if (← current) = some symbol then yes else no) text value Before := by
  intro rest before
  have here : (text ++ rest).head? = some symbol := by simp [next]
  rw [run_bind, run_current, Option.bind_some, if_pos here]
  exact reads rest before

theorem Reads.ifOther [DecidableEq σ] {symbol : σ} {yes no : Scanner σ α} (reads : Reads no text value Before)
    (other : ∀ rest, Before rest → (text ++ rest).head? ≠ some symbol) :
    Reads (do if (← current) = some symbol then yes else no) text value Before := by
  intro rest before
  rw [run_bind, run_current, Option.bind_some, if_neg (other rest before)]
  exact reads rest before

theorem Reads.whileNext [DecidableEq σ] {ι : Type} {symbol : σ} {body : α → Scanner σ α} {last : σ → Prop}
    (takes : ∀ value, Ends last (body value)) {items : List ι} {itemText : ι → List σ} {apply : α → ι → α}
    (each : ∀ item ∈ items, ∀ value, Reads (body value) (itemText item) (apply value item) Middle)
    (starts : ∀ item ∈ items, (itemText item).head? = some symbol)
    (joins : ∀ rest, rest.head? = some symbol → Middle rest)
    (stops : ∀ rest, Before rest → rest.head? ≠ some symbol ∧ Middle rest) (value : α) :
    Reads (whileNext symbol body value) (items.flatMap itemText) (items.foldl apply value) Before := by
  intro rest before
  induction items generalizing value with
  | nil => exact whileNext_of_other (stops rest before).1 value
  | cons item items ih =>
    have next := starts item List.mem_cons_self
    have here : (itemText item ++ (items.flatMap itemText ++ rest)).head? = some symbol := by
      rw [List.head?_append, next]
      rfl
    have middle : Middle (items.flatMap itemText ++ rest) := by
      cases items with
      | nil => exact (stops rest before).2
      | cons other others =>
        apply joins
        have otherNext := starts other (by simp)
        simp [otherNext]
    rw [List.flatMap_cons, List.append_assoc, whileNext_of_next takes here, run_bind,
      each item List.mem_cons_self value _ middle, Option.bind_some]
    exact ih (fun other member => each other (List.mem_cons_of_mem _ member))
      (fun other member => starts other (List.mem_cons_of_mem _ member)) (apply value item)

end Scanner
