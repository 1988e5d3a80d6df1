import Mathlib.Algebra.Order.Group.Multiset
import Mathlib.Data.Multiset.MapFold
import Mathlib.Data.Multiset.Range
import Mathlib.Data.Multiset.UnionInter
import MhWallet.Effect.Action

/-!
Contract: memory that is allocated, read, written and freed by address, and the
blocks that a computation owns.

A `Triple` says what a computation does to the blocks it is given.  It is about
every memory that has these blocks beside others, so whatever else there is stays
as it is, and an address that is not allocated is never touched.

Owns: the four operations and their rules, the rules for sequences, the frame rule,
memory as a component of a state, and linked lists.

Does not own: what the blocks hold.
-/

namespace MhWallet.Effect

/-- Blocks by address.  No address is given out twice. -/
structure Heap (β : Type) where
  block : Nat → Option β
  next : Nat
  fresh : ∀ address, next ≤ address → block address = none

namespace Heap

variable {ε α γ β : Type}

/-- A memory without blocks. -/
def empty : Heap β where
  block _ := none
  next := 0
  fresh _ _ := rfl

/-- The memory with a block at an address that has been given out, or with none there. -/
def set (heap : Heap β) (address : Nat) (content : Option β) (issued : address < heap.next) :
    Heap β where
  block other := if other = address then content else heap.block other
  next := heap.next
  fresh other later := by
    have differ : other ≠ address := by omega
    rw [if_neg differ, heap.fresh other later]

theorem issued {heap : Heap β} {address : Nat} {content : β}
    (there : heap.block address = some content) : address < heap.next := by
  by_contra beyond
  rw [heap.fresh address (Nat.le_of_not_lt beyond)] at there
  cases there

/-- A new block. -/
def alloc (content : β) : Action ε (Heap β) Nat :=
  ⟨fun heap =>
    (.ok heap.next,
      { block := fun other => if other = heap.next then some content else heap.block other
        next := heap.next + 1
        fresh := by
          intro other later
          have differ : other ≠ heap.next := by omega
          rw [if_neg differ]
          exact heap.fresh other (by omega) })⟩

/-- The block at an address, or `fault`. -/
def load (fault : ε) (address : Nat) : Action ε (Heap β) β :=
  ⟨fun heap =>
    match heap.block address with
    | some content => (.ok content, heap)
    | none => (.error fault, heap)⟩

/-- Put `content` where there is a block, or in its place none. -/
def replace (fault : ε) (address : Nat) (content : Option β) : Action ε (Heap β) Unit :=
  ⟨fun heap =>
    match there : heap.block address with
    | some _ => (.ok (), heap.set address content (issued there))
    | none => (.error fault, heap)⟩

def store (fault : ε) (address : Nat) (content : β) : Action ε (Heap β) Unit :=
  replace fault address (some content)

/-- `free`, which takes a null pointer as well. -/
def free (fault : ε) : Option Nat → Action ε (Heap β) Unit
  | some address => replace fault address none
  | none => pure ()

/-- A loop with as many rounds as there are addresses that have been given out. -/
def bounded (action : Nat → Action ε (Heap β) α) : Action ε (Heap β) α :=
  ⟨fun heap => (action heap.next).run heap⟩

/-! ## Ownership -/

/-- The memory is `frame` together with these blocks. -/
structure Owns (frame : Nat → Option β) (cells : Multiset (Nat × β)) (heap : Heap β) : Prop where
  nodup : (cells.map Prod.fst).Nodup
  apart : ∀ cell ∈ cells, frame cell.1 = none
  holds : ∀ cell ∈ cells, heap.block cell.1 = some cell.2
  rest : ∀ address, address ∉ cells.map Prod.fst → heap.block address = frame address

/-- Every memory owns nothing beside itself. -/
theorem owns_zero (heap : Heap β) : Owns heap.block 0 heap where
  nodup := Multiset.nodup_zero
  apart _ there := absurd there (Multiset.notMem_zero _)
  holds _ there := absurd there (Multiset.notMem_zero _)
  rest _ _ := rfl

namespace Owns

variable {frame : Nat → Option β} {cells more : Multiset (Nat × β)} {heap : Heap β}
  {address : Nat} {content : β}

theorem head (owns : Owns frame ((address, content) ::ₘ cells) heap) :
    heap.block address = some content :=
  owns.holds (address, content) (Multiset.mem_cons_self _ _)

/-- The other blocks have other addresses. -/
theorem notMem (owns : Owns frame ((address, content) ::ₘ cells) heap) :
    address ∉ cells.map Prod.fst := by
  have nodup := owns.nodup
  rw [Multiset.map_cons, Multiset.nodup_cons] at nodup
  exact nodup.1

/-- There are no more blocks than addresses given out. -/
theorem card_le (owns : Owns frame cells heap) : cells.card ≤ heap.next := by
  have inside : cells.map Prod.fst ⊆ Multiset.range heap.next := by
    intro other there
    obtain ⟨cell, kept, same⟩ := Multiset.mem_map.mp there
    rw [Multiset.mem_range, ← same]
    exact issued (owns.holds cell kept)
  have most := Multiset.card_le_card ((Multiset.le_iff_subset owns.nodup).mpr inside)
  rwa [Multiset.card_map, Multiset.card_range] at most

/-- Blocks moved into the frame. -/
theorem enframe (owns : Owns frame (cells + more) heap) :
    Owns (fun address =>
      if address ∈ more.map Prod.fst then heap.block address else frame address) cells heap := by
  have nodup := owns.nodup
  rw [Multiset.map_add, Multiset.nodup_add] at nodup
  refine ⟨nodup.1, ?_, ?_, ?_⟩
  · intro cell there
    have outside : cell.1 ∉ more.map Prod.fst :=
      Multiset.disjoint_left.mp nodup.2.2 (Multiset.mem_map_of_mem _ there)
    rw [if_neg outside]
    exact owns.apart cell (Multiset.mem_add.mpr (.inl there))
  · intro cell there
    exact owns.holds cell (Multiset.mem_add.mpr (.inl there))
  · intro other outside
    split
    next => rfl
    next elsewhere =>
      apply owns.rest
      rw [Multiset.map_add, Multiset.mem_add, not_or]
      exact ⟨outside, elsewhere⟩

/-- Blocks taken back from the frame. -/
theorem deframe {before after : Heap β} {left : Multiset (Nat × β)}
    (owned : Owns frame (cells + more) before)
    (owns : Owns (fun address =>
      if address ∈ more.map Prod.fst then before.block address else frame address) left after) :
    Owns frame (left + more) after := by
  have nodup := owned.nodup
  rw [Multiset.map_add, Multiset.nodup_add] at nodup
  have framed : ∀ cell ∈ left, cell.1 ∉ more.map Prod.fst ∧ frame cell.1 = none := by
    intro cell there
    have apart := owns.apart cell there
    by_cases inside : cell.1 ∈ more.map Prod.fst
    · obtain ⟨other, kept, same⟩ := Multiset.mem_map.mp inside
      rw [if_pos inside, ← same, owned.holds other (Multiset.mem_add.mpr (.inr kept))] at apart
      cases apart
    · rw [if_neg inside] at apart
      exact ⟨inside, apart⟩
  have disjoint : ∀ cell ∈ more, cell.1 ∉ left.map Prod.fst := by
    intro cell kept inside
    obtain ⟨other, there, same⟩ := Multiset.mem_map.mp inside
    apply (framed other there).1
    rw [same]
    exact Multiset.mem_map_of_mem _ kept
  refine ⟨?_, ?_, ?_, ?_⟩
  · rw [Multiset.map_add, Multiset.nodup_add]
    refine ⟨owns.nodup, nodup.2.1, Multiset.disjoint_left.mpr ?_⟩
    intro other inside
    obtain ⟨cell, there, same⟩ := Multiset.mem_map.mp inside
    rw [← same]
    exact (framed cell there).1
  · intro cell there
    rcases Multiset.mem_add.mp there with mine | kept
    · exact (framed cell mine).2
    · exact owned.apart cell (Multiset.mem_add.mpr (.inr kept))
  · intro cell there
    rcases Multiset.mem_add.mp there with mine | kept
    · exact owns.holds cell mine
    · rw [owns.rest cell.1 (disjoint cell kept), if_pos (Multiset.mem_map_of_mem _ kept)]
      exact owned.holds cell (Multiset.mem_add.mpr (.inr kept))
  · intro other outside
    rw [Multiset.map_add, Multiset.mem_add, not_or] at outside
    rw [owns.rest other outside.1, if_neg outside.2]

end Owns

/-! ## Triples -/

/-- From any memory that has these blocks beside others, the computation returns;
it leaves the others as they are, and `post` says which blocks it leaves. -/
def Triple (cells : Multiset (Nat × β)) (action : Action ε (Heap β) α)
    (post : α → Multiset (Nat × β) → Prop) : Prop :=
  ∀ frame heap, Owns frame cells heap →
    ∃ value after left, action.run heap = (.ok value, after) ∧ Owns frame left after ∧
      post value left

namespace Triple

variable {cells more : Multiset (Nat × β)} {action : Action ε (Heap β) α}
  {post : α → Multiset (Nat × β) → Prop} {address : Nat} {content : β} {fault : ε}

/-- A computation that owns nothing leaves every memory as it was, with the blocks
it returns added. -/
theorem run (triple : Triple 0 action post) (heap : Heap β) :
    ∃ value after left, action.run heap = (.ok value, after) ∧
      Owns heap.block left after ∧ post value left :=
  triple heap.block heap (owns_zero heap)

theorem weaken {weaker : α → Multiset (Nat × β) → Prop} (triple : Triple cells action post)
    (implies : ∀ value left, post value left → weaker value left) :
    Triple cells action weaker := by
  intro frame heap owns
  obtain ⟨value, after, left, ran, owned, holds⟩ := triple frame heap owns
  exact ⟨value, after, left, ran, owned, implies value left holds⟩

/-- The same blocks, put down in another order. -/
theorem permute (others : Multiset (Nat × β)) (same : cells = others)
    (triple : Triple others action post) : Triple cells action post := same ▸ triple

theorem pure {value : α} (holds : post value cells) :
    Triple cells (Pure.pure value : Action ε (Heap β) α) post := by
  intro frame heap owns
  exact ⟨value, heap, cells, rfl, owns, holds⟩

theorem bind {first : Action ε (Heap β) γ} {next : γ → Action ε (Heap β) α}
    {middle : γ → Multiset (Nat × β) → Prop} (before : Triple cells first middle)
    (after : ∀ value left, middle value left → Triple left (next value) post) :
    Triple cells (first >>= next) post := by
  intro frame heap owns
  obtain ⟨part, between, left, ran, owned, holds⟩ := before frame heap owns
  rw [Action.run_bind_ok ran]
  exact after part left holds frame between owned

theorem map {change : α → γ} {after : γ → Multiset (Nat × β) → Prop}
    (triple : Triple cells action fun value left => after (change value) left) :
    Triple cells (change <$> action) after := by
  intro frame heap owns
  obtain ⟨value, reached, left, ran, owned, holds⟩ := triple frame heap owns
  refine ⟨change value, reached, left, ?_, owned, holds⟩
  rw [Action.run_map, ran]

/-- The frame rule: blocks that the computation is not given stay. -/
theorem frame (triple : Triple cells action post) (more : Multiset (Nat × β)) :
    Triple (cells + more) action fun value left =>
      ∃ rest, post value rest ∧ left = rest + more := by
  intro frame heap owns
  obtain ⟨value, after, left, ran, owned, holds⟩ := triple _ heap owns.enframe
  exact ⟨value, after, left + more, ran, owns.deframe owned, left, holds, rfl⟩

theorem alloc (content : β) :
    Triple cells (Heap.alloc content : Action ε (Heap β) Nat)
      fun address left => left = (address, content) ::ₘ cells := by
  intro frame heap owns
  have unused : heap.block heap.next = none := heap.fresh _ (Nat.le_refl _)
  have outside : heap.next ∉ cells.map Prod.fst := by
    intro inside
    obtain ⟨cell, there, same⟩ := Multiset.mem_map.mp inside
    have held := owns.holds cell there
    rw [same, unused] at held
    cases held
  refine ⟨_, _, _, rfl, ⟨?_, ?_, ?_, ?_⟩, rfl⟩
  · rw [Multiset.map_cons, Multiset.nodup_cons]
    exact ⟨outside, owns.nodup⟩
  · intro cell there
    rcases Multiset.mem_cons.mp there with rfl | kept
    · rw [← owns.rest heap.next outside, unused]
    · exact owns.apart cell kept
  · intro cell there
    rcases Multiset.mem_cons.mp there with rfl | kept
    · exact if_pos rfl
    · have differ : cell.1 ≠ heap.next := by
        intro same
        exact outside (same ▸ Multiset.mem_map_of_mem _ kept)
      exact (if_neg differ).trans (owns.holds cell kept)
  · intro other elsewhere
    rw [Multiset.map_cons, Multiset.mem_cons, not_or] at elsewhere
    exact (if_neg elsewhere.1).trans (owns.rest other elsewhere.2)

theorem load : Triple ((address, content) ::ₘ cells)
    (Heap.load fault address : Action ε (Heap β) β)
    fun value left => value = content ∧ left = (address, content) ::ₘ cells := by
  intro frame heap owns
  refine ⟨content, heap, _, ?_, owns, rfl, rfl⟩
  simp [Heap.load, owns.head]

/-- A write changes the one block. -/
private theorem replaced {heap : Heap β} (there : heap.block address = some content)
    (content' : Option β) :
    (Heap.replace fault address content' : Action ε (Heap β) Unit).run heap =
      (.ok (), heap.set address content' (issued there)) := by
  simp only [Heap.replace]
  split
  next => rfl
  next absent =>
    rw [there] at absent
    cases absent

theorem store (content' : β) : Triple ((address, content) ::ₘ cells)
    (Heap.store fault address content' : Action ε (Heap β) Unit)
    fun _ left => left = (address, content') ::ₘ cells := by
  intro frame heap owns
  have outside := owns.notMem
  have nodup := owns.nodup
  refine ⟨(), _, _, replaced owns.head _, ⟨?_, ?_, ?_, ?_⟩, rfl⟩
  · rw [Multiset.map_cons] at nodup ⊢
    exact nodup
  · intro cell there
    rcases Multiset.mem_cons.mp there with rfl | kept
    · exact owns.apart (address, content) (Multiset.mem_cons_self _ _)
    · exact owns.apart cell (Multiset.mem_cons_of_mem kept)
  · intro cell there
    rcases Multiset.mem_cons.mp there with rfl | kept
    · exact if_pos rfl
    · have differ : cell.1 ≠ address := by
        intro same
        exact outside (same ▸ Multiset.mem_map_of_mem _ kept)
      exact (if_neg differ).trans (owns.holds cell (Multiset.mem_cons_of_mem kept))
  · intro other elsewhere
    rw [Multiset.map_cons, Multiset.mem_cons, not_or] at elsewhere
    apply (if_neg elsewhere.1).trans (owns.rest other _)
    rw [Multiset.map_cons, Multiset.mem_cons, not_or]
    exact elsewhere

theorem free : Triple ((address, content) ::ₘ cells)
    (Heap.free fault (some address) : Action ε (Heap β) Unit) fun _ left => left = cells := by
  intro frame heap owns
  have outside := owns.notMem
  have nodup := owns.nodup
  rw [Multiset.map_cons, Multiset.nodup_cons] at nodup
  refine ⟨(), _, _, replaced owns.head _, ⟨nodup.2, ?_, ?_, ?_⟩, rfl⟩
  · intro cell kept
    exact owns.apart cell (Multiset.mem_cons_of_mem kept)
  · intro cell kept
    have differ : cell.1 ≠ address := by
      intro same
      exact outside (same ▸ Multiset.mem_map_of_mem _ kept)
    exact (if_neg differ).trans (owns.holds cell (Multiset.mem_cons_of_mem kept))
  · intro other elsewhere
    by_cases same : other = address
    · rw [same, ← owns.apart (address, content) (Multiset.mem_cons_self _ _)]
      exact if_pos rfl
    · apply (if_neg same).trans (owns.rest other _)
      rw [Multiset.map_cons, Multiset.mem_cons, not_or]
      exact ⟨same, elsewhere⟩

theorem free_null : Triple cells (Heap.free fault none : Action ε (Heap β) Unit)
    fun _ left => left = cells :=
  Triple.pure rfl

/-- A loop over blocks that it owns needs no more rounds than there are addresses. -/
theorem bounded {action : Nat → Action ε (Heap β) α}
    (enough : ∀ rounds, cells.card ≤ rounds → Triple cells (action rounds) post) :
    Triple cells (Heap.bounded action) post := by
  intro frame heap owns
  exact enough heap.next owns.card_le frame heap owns

end Triple

/-! ## Memory as a component -/

/-- A triple about a computation on a state that has the memory as a component, from
one state. -/
def TripleAt {S : Type} (lens : Lens S (Heap β)) (state : S) (cells : Multiset (Nat × β))
    (action : Action ε S α) (post : α → S → Multiset (Nat × β) → Prop) : Prop :=
  ∀ frame, Owns frame cells (lens.get state) →
    ∃ value after left, action.run state = (.ok value, after) ∧
      Owns frame left (lens.get after) ∧ post value after left

namespace TripleAt

variable {S : Type} {lens : Lens S (Heap β)} {state : S} {cells : Multiset (Nat × β)}
  {action : Action ε S α} {post : α → S → Multiset (Nat × β) → Prop}

theorem weaken {weaker : α → S → Multiset (Nat × β) → Prop}
    (triple : TripleAt lens state cells action post)
    (implies : ∀ value after left, post value after left → weaker value after left) :
    TripleAt lens state cells action weaker := by
  intro frame owns
  obtain ⟨value, after, left, ran, owned, holds⟩ := triple frame owns
  exact ⟨value, after, left, ran, owned, implies value after left holds⟩

theorem pure {value : α} (holds : post value state cells) :
    TripleAt lens state cells (Pure.pure value : Action ε S α) post := by
  intro frame owns
  exact ⟨value, state, cells, rfl, owns, holds⟩

theorem bind {first : Action ε S γ} {next : γ → Action ε S α}
    {middle : γ → S → Multiset (Nat × β) → Prop}
    (before : TripleAt lens state cells first middle)
    (after : ∀ value between left, middle value between left →
      TripleAt lens between left (next value) post) :
    TripleAt lens state cells (first >>= next) post := by
  intro frame owns
  obtain ⟨part, between, left, ran, owned, holds⟩ := before frame owns
  rw [Action.run_bind_ok ran]
  exact after part between left holds frame owned

/-- A computation on the memory leaves the rest of the state. -/
theorem focus {inner : Action ε (Heap β) α} {holds : α → Multiset (Nat × β) → Prop}
    (triple : Triple cells inner holds) :
    TripleAt lens state cells (inner.focus lens) fun value after left =>
      holds value left ∧ ∃ memory, after = lens.put memory state := by
  intro frame owns
  obtain ⟨value, memory, left, ran, owned, held⟩ := triple frame _ owns
  refine ⟨value, lens.put memory state, left, ?_, ?_, held, memory, rfl⟩
  · rw [Action.run_focus, ran]
  · rw [lens.get_put]
    exact owned

/-- A computation that does not change the memory. -/
theorem outside {value : α} {after : S} (ran : action.run state = (.ok value, after))
    (same : lens.get after = lens.get state) :
    TripleAt lens state cells action fun found reached left =>
      found = value ∧ reached = after ∧ left = cells := by
  intro frame owns
  exact ⟨value, after, cells, ran, same ▸ owns, rfl, rfl, rfl⟩

end TripleAt

/-! ## Linked lists -/

/-- A node of a list: the block at its address, given the address of the next node,
and the blocks that belong to it. -/
structure Link (β : Type) where
  address : Nat
  block : Option Nat → β
  belongings : Multiset (Nat × β)

/-- The pointer to the first node of a list that goes on at `beyond`. -/
def entry (links : List (Link β)) (beyond : Option Nat) : Option Nat :=
  (links.head?.map Link.address).or beyond

/-- The blocks of a list that goes on at `beyond`. -/
def chain : List (Link β) → Option Nat → Multiset (Nat × β)
  | [], _ => 0
  | link :: links, beyond =>
      (link.address, link.block (entry links beyond)) ::ₘ (link.belongings + chain links beyond)

theorem chain_append (front back : List (Link β)) (beyond : Option Nat) :
    chain (front ++ back) beyond = chain front (entry back beyond) + chain back beyond := by
  induction front with
  | nil => simp [chain]
  | cons link front inductionHypothesis =>
      have pointer : entry (front ++ back) beyond = entry front (entry back beyond) := by
        simp only [entry, List.head?_append]
        cases front.head? <;> rfl
      rw [List.cons_append, chain, chain, inductionHypothesis, pointer, Multiset.cons_add,
        Multiset.add_assoc]

theorem length_le_card_chain (links : List (Link β)) (beyond : Option Nat) :
    links.length ≤ (chain links beyond).card := by
  induction links with
  | nil => exact Nat.zero_le _
  | cons link links inductionHypothesis =>
      rw [chain, Multiset.card_cons, Multiset.card_add, List.length_cons]
      omega

end Heap

end MhWallet.Effect
