import Mathlib.Data.Fintype.Card
import TwoVenues.Proofs.Clusters.DisjointSets

/-!
# Runs of calls on disjoint sets

Elements are looked up and sets are joined in any order. Whatever the calls, two elements share a
root exactly if the pairs joined so far connect them.

* `Call`, `Answer`, `run` : the calls, what they answer, and a run of calls one after the other;
* `Represents.call`, `represents_run` : the sets stay the classes of the joined pairs;
* `card_roots_call`, `card_roots_run` : a root is lost with every join of different sets;
* `root_call`, `root_run` : roots stay as they are until different sets are joined.
-/

namespace TwoVenues.DisjointSets

/-- A call on disjoint sets. -/
inductive Call (n : Nat) where
  | find (i : Fin n)
  | union (i j : Fin n)

/-- What a call answers: the root that was found, or whether different sets were joined. -/
inductive Answer (n : Nat) where
  | root (r : Fin n)
  | joined (different : Bool)
deriving DecidableEq

variable {n : Nat}

/-- The answer to a call, and the sets after it. -/
def call (f : DisjointSets n) : Call n → Answer n × DisjointSets n
  | .find i => (.root (f.find i).1, (f.find i).2)
  | .union i j => (.joined (f.union i j).1, (f.union i j).2)

def run (f : DisjointSets n) : List (Call n) → List (Answer n) × DisjointSets n
  | [] => ([], f)
  | c :: cs => ((f.call c).1 :: ((f.call c).2.run cs).1, ((f.call c).2.run cs).2)

/-! ## Classes -/

def Call.pair? : Call n → Option (Fin n × Fin n)
  | .find _ => none
  | .union i j => some (i, j)

theorem Call.pair?_eq_some_iff {c : Call n} {i j : Fin n} :
    c.pair? = some (i, j) ↔ c = .union i j := by
  cases c <;> simp [pair?]

theorem mem_filterMap_pair? {calls : List (Call n)} {i j : Fin n} :
    (i, j) ∈ calls.filterMap Call.pair? ↔ .union i j ∈ calls := by
  simp [List.mem_filterMap, Call.pair?_eq_some_iff]

theorem Represents.call {f : DisjointSets n} {edges : List (Fin n × Fin n)}
    (h : f.Represents edges) (c : Call n) :
    (f.call c).2.Represents (edges ++ c.pair?.toList) := by
  cases c with
  | find i =>
    intro x y
    rw [Call.pair?, Option.toList_none, List.append_nil, ← h x y]
    exact iff_of_eq (congrArg₂ Eq (f.root_compress i x) (f.root_compress i y))
  | union i j => exact h.union i j

theorem snd_run (f : DisjointSets n) (calls : List (Call n)) :
    (f.run calls).2 = calls.foldl (fun g c => (g.call c).2) f := by
  induction calls generalizing f with
  | nil => rfl
  | cons c cs ih => exact ih (f.call c).2

theorem represents_run (calls : List (Call n)) :
    ((singletons n).run calls).2.Represents (calls.filterMap Call.pair?) := by
  rw [snd_run]
  exact (Represents.singletons n).foldl Represents.call calls

/-! ## Roots -/

/-- The elements that stand for sets. -/
def roots (f : DisjointSets n) : Finset (Fin n) := Finset.univ.image f.root

theorem mem_roots {f : DisjointSets n} {i : Fin n} : i ∈ f.roots ↔ f.root i = i := by
  simp only [roots, Finset.mem_image, Finset.mem_univ, true_and]
  constructor
  · rintro ⟨k, rfl⟩
    exact f.root_root k
  · intro h
    exact ⟨i, h⟩

theorem roots_congr {f g : DisjointSets n} (h : ∀ i, g.root i = f.root i) : g.roots = f.roots := by
  rw [roots, roots, funext h]

theorem card_roots_singletons (n : Nat) : (singletons n).roots.card = n := by
  rw [roots, funext root_singletons, Finset.image_id', Finset.card_univ, Fintype.card_fin]

/-- If one of two roots takes over what both stand for, the other is no longer a root. -/
theorem card_roots_of_merge {f g : DisjointSets n} {r s t : Fin n} (hr : f.root r = r)
    (hs : f.root s = s) (hne : r ≠ s) (ht : t = r ∨ t = s)
    (h : ∀ x, g.root x = if f.root x = r ∨ f.root x = s then t else f.root x) :
    g.roots.card + 1 = f.roots.card := by
  -- of `r` and `s`, the one that is not `t` now stands below `t`
  obtain ⟨lost, hlost, hroots⟩ : ∃ lost ∈ f.roots, g.roots = f.roots.erase lost := by
    rcases ht with rfl | rfl
    · refine ⟨s, mem_roots.2 hs, Finset.ext fun x => ?_⟩
      rw [Finset.mem_erase, mem_roots, mem_roots, h]
      grind
    · refine ⟨r, mem_roots.2 hr, Finset.ext fun x => ?_⟩
      rw [Finset.mem_erase, mem_roots, mem_roots, h]
      grind
  rw [hroots]
  exact Finset.card_erase_add_one hlost

theorem card_roots_union (f : DisjointSets n) (i j : Fin n) :
    (f.union i j).2.roots.card + (f.union i j).1.toNat = f.roots.card := by
  rcases f.union_cases i j with ⟨-, hanswer, hroot⟩ | ⟨hne, hanswer, t, ht, hroot⟩
  · rw [hanswer, roots_congr hroot]
    rfl
  · rw [hanswer]
    exact card_roots_of_merge (f.root_root i) (f.root_root j) hne ht hroot

theorem card_roots_call (f : DisjointSets n) (c : Call n) :
    (f.call c).2.roots.card + [(f.call c).1].count (.joined true) = f.roots.card := by
  cases c with
  | find i => exact congrArg Finset.card (roots_congr (f.root_compress i))
  | union i j =>
    have h := f.card_roots_union i j
    simp only [call]
    cases hanswer : (f.union i j).1 <;> rw [hanswer] at h <;> exact h

theorem card_roots_run (f : DisjointSets n) (calls : List (Call n)) :
    (f.run calls).2.roots.card + (f.run calls).1.count (.joined true) = f.roots.card := by
  induction calls generalizing f with
  | nil => rfl
  | cons c cs ih =>
    have hhead := f.card_roots_call c
    have htail := ih (f.call c).2
    rw [List.count_singleton] at hhead
    simp only [run, List.count_cons]
    omega

theorem union_eq_true_iff {f : DisjointSets n} {i j : Fin n} :
    (f.union i j).1 = true ↔ f.root i ≠ f.root j := by
  rcases f.union_cases i j with ⟨hsame, hanswer, -⟩ | ⟨hne, hanswer, -⟩
  · simp [hanswer, hsame]
  · simp [hanswer, hne]

/-- A call that joins no different sets leaves every root as it was. -/
theorem root_call {f : DisjointSets n} {c : Call n} (h : (f.call c).1 ≠ .joined true) (x : Fin n) :
    (f.call c).2.root x = f.root x := by
  cases c with
  | find i => exact f.root_compress i x
  | union i j =>
    rcases f.union_cases i j with ⟨-, -, hroot⟩ | ⟨-, hanswer, -⟩
    · exact hroot x
    · exact absurd (congrArg Answer.joined hanswer) h

theorem root_run {f : DisjointSets n} {calls : List (Call n)}
    (h : .joined true ∉ (f.run calls).1) (x : Fin n) : (f.run calls).2.root x = f.root x := by
  induction calls generalizing f with
  | nil => rfl
  | cons c cs ih =>
    rw [run, List.mem_cons, not_or] at h
    rw [run, ih h.2, root_call (Ne.symm h.1)]

/-- **On every run, two elements share a root exactly if the pairs joined so far connect them.** A
pair is answered as different sets exactly if it was not connected before, so every such answer
takes one away from the number of roots. Looking elements up changes no root, and neither do joins
of what is joined already. -/
theorem run_joins_connected (calls : List (Call n)) :
    let answers := ((singletons n).run calls).1
    let f := ((singletons n).run calls).2
    let Connected := Relation.EqvGen fun i j => .union i j ∈ calls
    (∀ i j, (f.find i).1 = ((f.find i).2.find j).1 ↔ Connected i j) ∧
    (∀ i j, (f.union i j).1 = true ↔ ¬Connected i j) ∧
    (Finset.univ.image fun i => (f.find i).1).card + answers.count (.joined true) = n ∧
    (∀ i j, ((f.find i).2.find j).1 = (f.find j).1) ∧
    ∀ later, .joined true ∉ (f.run later).1 → ∀ i, ((f.run later).2.find i).1 = (f.find i).1 := by
  intro answers f Connected
  have hfind : ∀ i j, ((f.find i).2.find j).1 = (f.find j).1 := fun i j => f.root_compress i j
  have hclasses : ∀ i j, f.root i = f.root j ↔ Connected i j := by
    intro i j
    rw [represents_run calls i j]
    simp only [mem_filterMap_pair?]
    rfl
  refine ⟨fun i j => ?_, fun i j => ?_, ?_, hfind, fun later h i => root_run h i⟩
  · rw [hfind]
    exact hclasses i j
  · rw [union_eq_true_iff, ← hclasses]
  · exact ((singletons n).card_roots_run calls).trans (card_roots_singletons n)

/-- Once 1 and 4 have joined the sets of 0 and 3, joining these changes no root. -/
theorem run_joins_connected_of_five :
    let f := ((singletons 5).run [.union 0 1, .union 3 4, .find 4, .union 1 4]).2
    Answer.joined true ∉ (f.run [.find 3, .union 0 3]).1 ∧
      ((f.run [.find 3, .union 0 3]).2.find 1).1 = (f.find 1).1 := by
  intro f
  obtain ⟨-, -, -, -, hlater⟩ :=
    run_joins_connected (n := 5) [.union 0 1, .union 3 4, .find 4, .union 1 4]
  have h : Answer.joined true ∉ (f.run [.find 3, .union 0 3]).1 := by decide +kernel
  exact ⟨h, hlater _ h 1⟩

end TwoVenues.DisjointSets
