import TwoVenues.Proofs.Outcome

/-!
# Operations with a domain

Some operations have a result for some operands only. The functions of the library give a value
everywhere, so they do not show whether such an operation is ever used outside its domain. In the
modules of this folder the algorithms are written once more, step by step and with these operations
as partial ones, and are shown to have a result always, namely that of the library.

* `div?`, `sub?` : no quotient by zero, and no difference below zero;
* `set?` : no value at a place that is not there;
* `takeBytes?`, `dropBytes?`, `byteSlice?` : no cut beyond a text or inside a character;
* `windows` : the runs of neighbours in a list.
-/

namespace TwoVenues.Checked
variable {α : Type}

/-! ## Counts -/

def div? (m n : Nat) : Option Nat := if n = 0 then none else some (m / n)

def sub? (m n : Nat) : Option Nat := if n ≤ m then some (m - n) else none

theorem div?_of_pos {m n : Nat} (h : 0 < n) : div? m n = some (m / n) := if_neg (Nat.ne_of_gt h)

theorem sub?_of_le {m n : Nat} (h : n ≤ m) : sub? m n = some (m - n) := if_pos h

/-! ## Places -/

def set? (xs : List α) (i : Nat) (x : α) : Option (List α) :=
  if i < xs.length then some (xs.set i x) else none

theorem set?_of_lt {xs : List α} {i : Nat} (h : i < xs.length) (x : α) :
    set? xs i x = some (xs.set i x) := if_pos h

/-- All runs of `n` neighbours in a list. -/
def windows (n : Nat) (xs : List α) : List (List α) :=
  (List.range (xs.length + 1 - n)).map fun i => (xs.drop i).take n

theorem windows_two (xs : List α) : windows 2 xs = (xs.zip xs.tail).map fun p => [p.1, p.2] := by
  apply List.ext_getElem
  · simp [windows]
  · intro i hwindow hpair
    have hi : i + 1 < xs.length := by
      simp [windows] at hwindow
      omega
    have htake : (xs.drop i).take 2 = [xs[i], xs[i + 1]] := by
      rw [List.drop_eq_getElem_cons (by omega), List.drop_eq_getElem_cons hi]
      rfl
    simp only [windows, List.getElem_map, List.getElem_range, htake, List.getElem_zip,
      List.getElem_tail]

/-! ## Texts

Texts are cut at bytes, of which a character has one or more. -/

/-- The characters before a number of bytes, if a character begins or the text ends there. -/
def takeBytes? : Nat → List Char → Option (List Char)
  | 0, _ => some []
  | _ + 1, [] => none
  | n + 1, c :: cs =>
    if c.utf8Size ≤ n + 1 then (takeBytes? (n + 1 - c.utf8Size) cs).map (c :: ·) else none

/-- The characters after a number of bytes, if a character begins or the text ends there. -/
def dropBytes? : Nat → List Char → Option (List Char)
  | 0, cs => some cs
  | _ + 1, [] => none
  | n + 1, c :: cs => if c.utf8Size ≤ n + 1 then dropBytes? (n + 1 - c.utf8Size) cs else none

/-- The characters from one byte to before another. -/
def byteSlice? (cs : List Char) (start stop : Nat) : Option (List Char) := do
  let length ← sub? stop start
  let rest ← dropBytes? start cs
  takeBytes? length rest

theorem utf8Size_of_isDigit {c : Char} (h : c.isDigit) : c.utf8Size = 1 := by
  obtain ⟨-, h9⟩ := Char.isDigit_iff_toNat.1 h
  have hone : c.val ≤ 0x7f := by
    rw [UInt32.le_iff_toNat_le]
    exact Nat.le_trans h9 (by decide)
  simp [Char.utf8Size, hone]

section Digits
variable {cs : List Char} {n : Nat}

theorem takeBytes?_of_isDigit (h : ∀ c ∈ cs, c.isDigit) (hn : n ≤ cs.length) :
    takeBytes? n cs = some (cs.take n) := by
  induction cs generalizing n with
  | nil =>
    obtain rfl := Nat.le_zero.1 hn
    rfl
  | cons c cs ih =>
    cases n with
    | zero => rfl
    | succ n =>
      have hrest := ih (fun d hd => h d (List.mem_cons_of_mem _ hd)) (Nat.le_of_succ_le_succ hn)
      simp [takeBytes?, utf8Size_of_isDigit (h c List.mem_cons_self), hrest]

theorem dropBytes?_of_isDigit (h : ∀ c ∈ cs, c.isDigit) (hn : n ≤ cs.length) :
    dropBytes? n cs = some (cs.drop n) := by
  induction cs generalizing n with
  | nil =>
    obtain rfl := Nat.le_zero.1 hn
    rfl
  | cons c cs ih =>
    cases n with
    | zero => rfl
    | succ n =>
      have hrest := ih (fun d hd => h d (List.mem_cons_of_mem _ hd)) (Nat.le_of_succ_le_succ hn)
      simp [dropBytes?, utf8Size_of_isDigit (h c List.mem_cons_self), hrest]

/-- Digits have one byte each, so that cuts between bytes are cuts between digits. -/
theorem byteSlice?_of_isDigit {start stop : Nat} (h : ∀ c ∈ cs, c.isDigit) (hstart : start ≤ stop)
    (hstop : stop ≤ cs.length) :
    byteSlice? cs start stop = some ((cs.drop start).take (stop - start)) := by
  have hrest : ∀ c ∈ cs.drop start, c.isDigit := fun c hc => h c (List.mem_of_mem_drop hc)
  have hlength : stop - start ≤ (cs.drop start).length := by
    rw [List.length_drop]
    omega
  unfold byteSlice?
  rw [sub?_of_le hstart, dropBytes?_of_isDigit h (Nat.le_trans hstart hstop)]
  exact takeBytes?_of_isDigit hrest hlength

end Digits

end TwoVenues.Checked
