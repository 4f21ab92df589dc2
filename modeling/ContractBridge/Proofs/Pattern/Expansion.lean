/-
The enumeration finds exactly the distributions that match.

`Expansion.explore` walks a queue and keeps a number of free cards, changing both as it goes and
putting back what it changed. Two facts about one call carry everything. `explore_restores`: the
queue and the free cards are after the call what they were before it, whatever the queue holds.
`mem_found_explore`: as long as the free cards are the thirteen less those of the lengths begun
with and less those the queue takes in any case, a call adds to the distributions found those
that go on from the lengths begun with as some row of the queue says (`Completes`), and no
others.

The second fact is an induction on the fuel, whose cases are the kinds of pattern at the front of
the queue; `completes_suit_iff` and `completes_group_iff` are those cases said of `Completes`. A
bound on the free cards cuts the lengths that are tried, and `Completes.le_total` is why nothing
is lost by it: suits still to come take at least their minimum.
-/
import ContractBridge.Pattern.Expansion
import ContractBridge.Proofs.Pattern.Row

set_option autoImplicit false

namespace ContractBridge

open Pattern

namespace Expansion

variable {l : SuitLengths} {lengths : List Int} {queue : List Pattern}

/-! ## How a distribution goes on -/

/-- **Whether a distribution begins with some lengths and goes on as a queue says:** some row of
the queue accepts the other lengths one by one, and none of those is negative. -/
def Completes (queue : List Pattern) (lengths : List Int) (l : SuitLengths) : Prop :=
  ∃ row rest, Rows queue row ∧
    List.Forall₂ (fun p n => 0 ≤ n ∧ SuitPattern.contains p n = true) row rest ∧
    l.toList = lengths ++ rest

theorem completes_suit_iff {p : SuitPattern} :
    Completes (.suit p :: queue) lengths l ↔
      ∃ n, 0 ≤ n ∧ p.contains n = true ∧ Completes queue (lengths ++ [n]) l := by
  constructor
  · rintro ⟨row, rest, hrow, hfits, hl⟩
    obtain ⟨r, rfl, hr⟩ := rows_suit_iff.1 hrow
    cases hfits with
    | cons hn hfits =>
      refine ⟨_, hn.1, hn.2, r, _, hr, hfits, ?_⟩
      rw [hl, List.append_assoc, List.singleton_append]
  · rintro ⟨n, hn, hp, r, rest, hr, hfits, hl⟩
    refine ⟨p :: r, n :: rest, .suit hr, .cons ⟨hn, hp⟩ hfits, ?_⟩
    rw [hl, List.append_assoc, List.singleton_append]

theorem completes_group_iff {members : List SuitPattern} :
    Completes (.group members :: queue) lengths l ↔
      ∃ order ∈ orderings members, Completes (order.map .suit ++ queue) lengths l := by
  constructor
  · rintro ⟨row, rest, hrow, hfits, hl⟩
    obtain ⟨order, r, hperm, rfl, hr⟩ := rows_group_iff.1 hrow
    exact ⟨order, mem_orderings.2 hperm, _, rest, rows_map_suit_append.2 ⟨r, rfl, hr⟩, hfits, hl⟩
  · rintro ⟨order, horder, row, rest, hrow, hfits, hl⟩
    obtain ⟨r, rfl, hr⟩ := rows_map_suit_append.1 hrow
    exact ⟨_, rest, .group (mem_orderings.1 horder) hr, hfits, hl⟩

/-- Lengths that a row accepts are no fewer cards than the row takes in any case. -/
theorem total_minimum_le {row : List SuitPattern} {rest : List Int}
    (h : List.Forall₂ (fun p n => 0 ≤ n ∧ SuitPattern.contains p n = true) row rest) :
    total (row.map SuitPattern.minimum) ≤ total rest := by
  induction h with
  | nil => exact Int.le_refl _
  | cons hn _ ih =>
    have := SuitPattern.minimum_le hn.1 hn.2
    rw [List.map_cons, total_cons, total_cons]
    omega

/-- A distribution has at least the cards it begins with and those the queue takes in any
case. -/
theorem Completes.le_total (h : Completes queue lengths l) :
    total lengths + fixedMinimum queue ≤ total l.toList := by
  obtain ⟨row, rest, hrow, hfits, hl⟩ := h
  have := total_minimum_le hfits
  rw [hrow.total_minimum] at this
  rw [hl, total_append]
  omega

theorem total_toList (l : SuitLengths) : total l.toList = l.total := by
  simp only [SuitLengths.toList, SuitLengths.total, total_cons, total_nil]
  omega

/-- Behind three lengths the queue has to be one suit, and thirteen cards force the fourth. -/
theorem completes_three_iff {p : Pattern} {s h d : Int} (hq : ∀ q ∈ p :: queue, q.IsProper) :
    (Completes (p :: queue) [s, h, d] l ∧ l.total = handSize) ↔
      l = ⟨s, h, d, handSize - (s + h + d)⟩ ∧ 0 ≤ handSize - (s + h + d) ∧ queue = [] ∧
        p.contains (handSize - (s + h + d)) = true := by
  constructor
  · rintro ⟨⟨row, rest, hrow, hfits, hl⟩, htotal⟩
    obtain ⟨ls, lh, ld, lc⟩ := l
    simp only [SuitLengths.toList, List.cons_append, List.nil_append, List.cons.injEq] at hl
    obtain ⟨rfl, rfl, rfl, rfl⟩ := hl
    -- the fourth length is not free, and it needs a row with just one more suit
    have hlast : lc = handSize - (ls + lh + ld) := by
      simp only [SuitLengths.total] at htotal
      omega
    cases hfits with
    | cons hn hfits =>
      cases hfits
      have hsingle := hrow.eq_singleton hq
      rw [List.cons.injEq] at hsingle
      obtain ⟨rfl, rfl⟩ := hsingle
      rw [← hlast]
      exact ⟨rfl, hn.1, rfl, hn.2⟩
  · rintro ⟨rfl, hn, rfl, hp⟩
    cases p with
    | group members => cases hp
    | suit p =>
      refine ⟨⟨[p], [_], .suit .nil, .cons ⟨hn, hp⟩ .nil, rfl⟩, ?_⟩
      simp only [SuitLengths.total]
      omega

/-! ## One step, case by case -/

variable {fuel : Nat} {s : Expansion}

theorem explore_of_queue_nil (h : s.queue = []) : explore fuel lengths s = s := by
  cases fuel with
  | zero => rfl
  | succ fuel => simp only [explore, h]

theorem explore_three {p : Pattern} {spades hearts diamonds : Int} (h : s.queue = p :: queue) :
    explore (fuel + 1) [spades, hearts, diamonds] s =
      { close { s with queue := queue } p spades hearts diamonds with
        queue := p :: (close { s with queue := queue } p spades hearts diamonds).queue } := by
  simp only [explore, h]

theorem explore_group {members : List SuitPattern} (hlen : lengths.length ≠ 3)
    (h : s.queue = .group members :: queue) :
    explore (fuel + 1) lengths s =
      let t := splice (explore fuel lengths) (orderings members) { s with queue := queue }
      { t with queue := .group members :: t.queue } := by
  match lengths, hlen with
  | [], _ | [_], _ | [_, _], _ | _ :: _ :: _ :: _ :: _, _ => simp only [explore, h]

theorem explore_atLeast {n : Int} (hlen : lengths.length ≠ 3)
    (h : s.queue = .suit ⟨n, .atLeast⟩ :: queue) :
    explore (fuel + 1) lengths s =
      let t := share (fun t k => explore fuel (lengths ++ [n + k]) t) (upTo s.free)
        { s with queue := queue }
      { t with queue := .suit ⟨n, .atLeast⟩ :: t.queue } := by
  match lengths, hlen with
  | [], _ | [_], _ | [_, _], _ | _ :: _ :: _ :: _ :: _, _ => simp only [explore, h]

theorem explore_atMost {n : Int} (hlen : lengths.length ≠ 3)
    (h : s.queue = .suit ⟨n, .atMost⟩ :: queue) :
    explore (fuel + 1) lengths s =
      let t := share (fun t k => explore fuel (lengths ++ [k]) t) (upTo (min s.free n))
        { s with queue := queue }
      { t with queue := .suit ⟨n, .atMost⟩ :: t.queue } := by
  match lengths, hlen with
  | [], _ | [_], _ | [_, _], _ | _ :: _ :: _ :: _ :: _, _ => simp only [explore, h]

theorem explore_exact {n : Int} (hlen : lengths.length ≠ 3)
    (h : s.queue = .suit ⟨n, .exact⟩ :: queue) :
    explore (fuel + 1) lengths s =
      let t := explore fuel (lengths ++ [n]) { s with queue := queue }
      { t with queue := .suit ⟨n, .exact⟩ :: t.queue } := by
  match lengths, hlen with
  | [], _ | [_], _ | [_, _], _ | _ :: _ :: _ :: _ :: _, _ => simp only [explore, h]

/-! ## What a call restores -/

/-- A fold adds to the distributions found what each of its steps adds, if the steps keep what
they rely on. -/
theorem mem_found_foldl {β : Type} {f : Expansion → β → Expansion} {I : Expansion → Prop}
    {adds : β → Prop} (bs : List β) (hinv : ∀ b ∈ bs, ∀ t, I t → I (f t b))
    (hadds : ∀ b ∈ bs, ∀ t, I t → (l ∈ (f t b).found ↔ l ∈ t.found ∨ adds b)) (hs : I s) :
    l ∈ (bs.foldl f s).found ↔ l ∈ s.found ∨ ∃ b ∈ bs, adds b := by
  induction bs generalizing s with
  | nil => simp only [List.foldl_nil, List.not_mem_nil, false_and, exists_false, or_false]
  | cons b bs ih =>
    have hb : b ∈ b :: bs := List.mem_cons_self
    have hrest : ∀ c ∈ bs, c ∈ b :: bs := fun c hc => List.mem_cons_of_mem b hc
    rw [List.foldl_cons, ih (fun c hc => hinv c (hrest c hc)) (fun c hc => hadds c (hrest c hc))
      (hinv b hb s hs), hadds b hb s hs, or_assoc, List.exists_mem_cons_iff]

/-- Sharing out free cards restores the queue, if every visit does. -/
theorem queue_share {visit : Expansion → Int → Expansion}
    (hvisit : ∀ t k, (visit t k).queue = t.queue) (counts : List Int) (s : Expansion) :
    (share visit counts s).queue = s.queue := by
  have hfold : ∀ t : Expansion,
      (counts.foldl (fun t k => visit { t with free := s.free - k } k) t).queue = t.queue := by
    induction counts with
    | nil => intro t; rfl
    | cons k counts ih => intro t; rw [List.foldl_cons, ih, hvisit]
  exact hfold s

/-- Splicing orderings into the queue takes them off again, if every visit restores the queue
and the free cards. -/
theorem splice_restores {visit : Expansion → Expansion}
    (hvisit : ∀ t, (visit t).queue = t.queue ∧ (visit t).free = t.free)
    (orders : List (List SuitPattern)) (s : Expansion) :
    (splice visit orders s).queue = s.queue ∧ (splice visit orders s).free = s.free := by
  unfold splice
  induction orders generalizing s with
  | nil => exact ⟨rfl, rfl⟩
  | cons order orders ih =>
    rw [List.foldl_cons]
    obtain ⟨hqueue, hfree⟩ := hvisit { s with queue := order.map .suit ++ s.queue }
    obtain ⟨ihqueue, ihfree⟩ := ih
      { visit { s with queue := order.map .suit ++ s.queue } with
        queue := (visit { s with queue := order.map .suit ++ s.queue }).queue.drop order.length }
    -- the ordering is in front again after the visit, so its length is what comes off
    refine ⟨ihqueue.trans ?_, ihfree.trans hfree⟩
    show (visit _).queue.drop order.length = s.queue
    rw [hqueue, List.drop_left' (by rw [List.length_map])]

theorem close_restores (s : Expansion) (p : Pattern) (a b c : Int) :
    (close s p a b c).queue = s.queue ∧ (close s p a b c).free = s.free := by
  simp only [close]
  split <;> exact ⟨rfl, rfl⟩

/-- **A call restores the queue and the number of free cards,** whatever the queue holds. -/
theorem explore_restores (fuel : Nat) (lengths : List Int) (s : Expansion) :
    (explore fuel lengths s).queue = s.queue ∧ (explore fuel lengths s).free = s.free := by
  induction fuel generalizing lengths s with
  | zero => exact ⟨rfl, rfl⟩
  | succ fuel ih =>
    cases hq : s.queue with
    | nil => rw [explore_of_queue_nil hq]; exact ⟨hq, rfl⟩
    | cons p queue =>
      -- whatever is done with the pattern taken off, it goes back in front of the rest
      have hback : ∀ t : Expansion, t.queue = queue ∧ t.free = s.free →
          p :: t.queue = p :: queue ∧ t.free = s.free := fun t ht => ⟨by rw [ht.1], ht.2⟩
      by_cases hlen : lengths.length = 3
      · obtain ⟨a, b, c, rfl⟩ := List.length_eq_three.1 hlen
        rw [explore_three hq]
        exact hback _ (close_restores _ p a b c)
      · match p with
        | .group members =>
          rw [explore_group hlen hq]
          exact hback _ (splice_restores (ih lengths) _ _)
        | .suit ⟨n, .atLeast⟩ =>
          rw [explore_atLeast hlen hq]
          exact hback _ ⟨queue_share (fun t _ => (ih _ t).1) _ _, rfl⟩
        | .suit ⟨n, .atMost⟩ =>
          rw [explore_atMost hlen hq]
          exact hback _ ⟨queue_share (fun t _ => (ih _ t).1) _ _, rfl⟩
        | .suit ⟨n, .exact⟩ =>
          rw [explore_exact hlen hq]
          exact hback _ (ih _ _)

/-! ## What a call finds -/

/-- Sharing out free cards adds what the visits add, one for each number of cards shared out. -/
theorem mem_found_share {visit : Expansion → Int → Expansion} {adds : Int → Prop}
    {counts : List Int} (hvisit : ∀ t k, (visit t k).queue = t.queue)
    (hadds : ∀ k ∈ counts, ∀ t : Expansion, t.queue = s.queue → t.free = s.free - k →
      (l ∈ (visit t k).found ↔ l ∈ t.found ∨ adds k)) :
    l ∈ (share visit counts s).found ↔ l ∈ s.found ∨ ∃ k ∈ counts, adds k :=
  mem_found_foldl (I := fun t => t.queue = s.queue) counts
    (fun k _ _ ht => (hvisit _ k).trans ht) (fun k hk _ ht => hadds k hk _ ht rfl) rfl

/-- Splicing orderings into the queue adds what the visits add, one for each ordering. -/
theorem mem_found_splice {visit : Expansion → Expansion} {adds : List SuitPattern → Prop}
    {orders : List (List SuitPattern)}
    (hvisit : ∀ t, (visit t).queue = t.queue ∧ (visit t).free = t.free)
    (hadds : ∀ o ∈ orders, ∀ t : Expansion, t.queue = o.map .suit ++ s.queue → t.free = s.free →
      (l ∈ (visit t).found ↔ l ∈ t.found ∨ adds o)) :
    l ∈ (splice visit orders s).found ↔ l ∈ s.found ∨ ∃ o ∈ orders, adds o := by
  refine mem_found_foldl (I := fun t => t.queue = s.queue ∧ t.free = s.free) orders
    (fun o _ t ht => ?_) (fun o ho t ht => hadds o ho _ (by rw [ht.1]) ht.2) ⟨rfl, rfl⟩
  obtain ⟨hqueue, hfree⟩ := hvisit { t with queue := o.map .suit ++ t.queue }
  refine ⟨?_, hfree.trans ht.2⟩
  show (visit _).queue.drop o.length = s.queue
  rw [hqueue, ht.1, List.drop_left' (by rw [List.length_map])]

theorem mem_found_close {p : Pattern} {a b c : Int} :
    l ∈ (close s p a b c).found ↔ l ∈ s.found ∨
      (l = ⟨a, b, c, handSize - (a + b + c)⟩ ∧ 0 ≤ handSize - (a + b + c) ∧ s.queue = [] ∧
        p.contains (handSize - (a + b + c)) = true) := by
  simp only [close]
  split
  · next h =>
    simp only [Bool.and_eq_true, decide_eq_true_eq, List.isEmpty_iff] at h
    rw [List.mem_cons, or_comm]
    simp only [h, and_self, and_true]
  · next h =>
    simp only [Bool.and_eq_true, decide_eq_true_eq, List.isEmpty_iff] at h
    constructor
    · exact Or.inl
    · rintro (hl | ⟨-, h0, hqueue, hp⟩)
      · exact hl
      · exact absurd ⟨⟨h0, hqueue⟩, hp⟩ h

theorem depth_suit (p : SuitPattern) (queue : List Pattern) :
    depth (.suit p :: queue) = depth queue + 1 := Nat.add_comm _ _

theorem depth_group (members : List SuitPattern) (queue : List Pattern) :
    depth (.group members :: queue) = members.length + 1 + depth queue := rfl

theorem depth_map_suit_append (order : List SuitPattern) (queue : List Pattern) :
    depth (order.map .suit ++ queue) = order.length + depth queue := by
  induction order with
  | nil => rw [List.map_nil, List.nil_append, List.length_nil, Nat.zero_add]
  | cons p order ih =>
    rw [List.map_cons, List.cons_append, depth_suit, ih, List.length_cons]
    omega

/-- Whether the free cards are those that neither the lengths begun with nor the queue account
for. -/
def Accounts (free : Int) (lengths : List Int) (queue : List Pattern) : Prop :=
  free = handSize - total lengths - fixedMinimum queue

/-- Whether a call from some lengths, queue and free cards adds a distribution exactly if it goes
on as the queue says. -/
def Finds (l : SuitLengths) (fuel : Nat) (lengths : List Int) (queue : List Pattern)
    (free : Int) : Prop :=
  ∀ t : Expansion, t.queue = queue → t.free = free →
    (l ∈ (explore fuel lengths t).found ↔
      l ∈ t.found ∨ (Completes queue lengths l ∧ l.total = handSize))

variable {free n : Int} {p : SuitPattern} {members order : List SuitPattern}

/-- A length takes as many free cards as it exceeds the minimum of its pattern. -/
theorem Accounts.suit (h : Accounts free lengths (.suit p :: queue)) (n : Int) :
    Accounts (free - (n - p.minimum)) (lengths ++ [n]) queue := by
  rw [Accounts, fixedMinimum_cons] at h
  rw [Accounts, total_append, h]
  simp only [Pattern.suits, List.map_cons, List.map_nil, total_cons, total_nil]
  omega

theorem Accounts.group (h : Accounts free lengths (.group members :: queue))
    (hperm : order.Perm members) : Accounts free lengths (order.map .suit ++ queue) := by
  rw [Accounts, fixedMinimum_cons] at h
  rw [Accounts, fixedMinimum_map_suit_append, h,
    total_eq_of_perm (hperm.map SuitPattern.minimum)]
  rfl

/-- The free cards suffice for every length of a distribution of thirteen cards. -/
theorem Accounts.sub_minimum_le (h : Accounts free lengths (.suit p :: queue))
    (hc : Completes queue (lengths ++ [n]) l) (htotal : l.total = handSize) :
    n - p.minimum ≤ free := by
  have hle := hc.le_total
  rw [total_toList, htotal, total_append, total_cons, total_nil] at hle
  rw [Accounts, fixedMinimum_cons] at h
  simp only [Pattern.suits, List.map_cons, List.map_nil, total_cons, total_nil] at h
  omega

/-! ### One case for each kind of pattern -/

theorem finds_nil (hlen : lengths.length < 4) : Finds l fuel lengths [] free := by
  intro t hqueue _
  rw [explore_of_queue_nil hqueue]
  refine ⟨Or.inl, ?_⟩
  rintro (hl | ⟨⟨row, rest, hrow, hfits, hl⟩, -⟩)
  · exact hl
  · -- an empty queue goes on with nothing, and fewer than four lengths are no distribution
    rw [rows_nil_iff.1 hrow] at hfits
    cases hfits
    have hfour := congrArg List.length hl
    rw [List.append_nil] at hfour
    simp only [SuitLengths.toList, List.length_cons, List.length_nil] at hfour
    omega

theorem finds_three {p : Pattern} {a b c : Int} (hproper : ∀ q ∈ p :: queue, q.IsProper) :
    Finds l (fuel + 1) [a, b, c] (p :: queue) free := by
  intro t hqueue _
  rw [explore_three hqueue, completes_three_iff hproper]
  exact mem_found_close

theorem finds_group (hlen : lengths.length ≠ 3)
    (h : ∀ order ∈ orderings members, Finds l fuel lengths (order.map .suit ++ queue) free) :
    Finds l (fuel + 1) lengths (.group members :: queue) free := by
  intro t hqueue hfree
  rw [explore_group hlen hqueue, completes_group_iff]
  have hsplice := mem_found_splice (l := l) (s := { t with queue := queue })
    (explore_restores fuel lengths)
    fun order horder u hu hv => h order horder u hu (hv.trans hfree)
  refine hsplice.trans ?_
  simp only [← exists_and_right, and_assoc]

theorem finds_exact (hlen : lengths.length ≠ 3) (hn : 0 ≤ n)
    (h : Finds l fuel (lengths ++ [n]) queue free) :
    Finds l (fuel + 1) lengths (.suit ⟨n, .exact⟩ :: queue) free := by
  intro t hqueue hfree
  rw [explore_exact hlen hqueue, completes_suit_iff]
  refine (h { t with queue := queue } rfl hfree).trans (or_congr_right ?_)
  constructor
  · rintro ⟨hc, htotal⟩
    exact ⟨⟨n, hn, (SuitPattern.contains_exact n n).2 rfl, hc⟩, htotal⟩
  · rintro ⟨⟨m, hm, hfits, hc⟩, htotal⟩
    rw [SuitPattern.contains_exact] at hfits
    rw [hfits] at hc
    exact ⟨hc, htotal⟩

theorem finds_atLeast (hlen : lengths.length ≠ 3) (hn : 0 ≤ n)
    (haccounts : Accounts free lengths (.suit ⟨n, .atLeast⟩ :: queue))
    (h : ∀ k, Finds l fuel (lengths ++ [n + k]) queue (free - k)) :
    Finds l (fuel + 1) lengths (.suit ⟨n, .atLeast⟩ :: queue) free := by
  intro t hqueue hfree
  subst hfree
  rw [explore_atLeast hlen hqueue, completes_suit_iff]
  have hshare := mem_found_share (l := l) (s := { t with queue := queue })
    (fun u k => (explore_restores fuel (lengths ++ [n + k]) u).1)
    fun k (_ : k ∈ upTo t.free) u hu hv => h k u hu hv
  refine hshare.trans (or_congr_right ?_)
  constructor
  · rintro ⟨k, hk, hc, htotal⟩
    rw [mem_upTo] at hk
    have hfits : SuitPattern.contains ⟨n, .atLeast⟩ (n + k) = true := by
      rw [SuitPattern.contains_atLeast]
      omega
    exact ⟨⟨n + k, Int.add_nonneg hn hk.1, hfits, hc⟩, htotal⟩
  · rintro ⟨⟨m, hm, hfits, hc⟩, htotal⟩
    rw [SuitPattern.contains_atLeast] at hfits
    -- no length is missed: one that takes more than the free cards is none of thirteen cards
    have hle : m - n ≤ t.free := haccounts.sub_minimum_le hc htotal
    refine ⟨m - n, mem_upTo.2 ⟨by omega, hle⟩, ?_, htotal⟩
    rwa [show n + (m - n) = m by omega]

theorem finds_atMost (hlen : lengths.length ≠ 3)
    (haccounts : Accounts free lengths (.suit ⟨n, .atMost⟩ :: queue))
    (h : ∀ k, Finds l fuel (lengths ++ [k]) queue (free - k)) :
    Finds l (fuel + 1) lengths (.suit ⟨n, .atMost⟩ :: queue) free := by
  intro t hqueue hfree
  subst hfree
  rw [explore_atMost hlen hqueue, completes_suit_iff]
  have hshare := mem_found_share (l := l) (s := { t with queue := queue })
    (fun u k => (explore_restores fuel (lengths ++ [k]) u).1)
    fun k (_ : k ∈ upTo (min t.free n)) u hu hv => h k u hu hv
  refine hshare.trans (or_congr_right ?_)
  constructor
  · rintro ⟨k, hk, hc, htotal⟩
    rw [mem_upTo] at hk
    have hfits : SuitPattern.contains ⟨n, .atMost⟩ k = true := by
      rw [SuitPattern.contains_atMost]
      omega
    exact ⟨⟨k, hk.1, hfits, hc⟩, htotal⟩
  · rintro ⟨⟨m, hm, hfits, hc⟩, htotal⟩
    rw [SuitPattern.contains_atMost] at hfits
    have hle : m - 0 ≤ t.free := haccounts.sub_minimum_le hc htotal
    exact ⟨m, mem_upTo.2 ⟨hm, by omega⟩, hc, htotal⟩

/-- **A call adds exactly the distributions that go on as the queue says,** if the fuel lasts
through the queue. -/
theorem finds_of_accounts (hlen : lengths.length < 4) (hfuel : depth queue < fuel)
    (hproper : ∀ p ∈ queue, p.IsProper) (haccounts : Accounts free lengths queue) :
    Finds l fuel lengths queue free := by
  induction fuel generalizing lengths queue free with
  | zero => omega
  | succ fuel ih =>
    cases queue with
    | nil => exact finds_nil hlen
    | cons p queue =>
      have hrest : ∀ q ∈ queue, q.IsProper := fun q hq => hproper q (List.mem_cons_of_mem p hq)
      by_cases hthree : lengths.length = 3
      · obtain ⟨a, b, c, rfl⟩ := List.length_eq_three.1 hthree
        exact finds_three hproper
      · cases p with
        | group members =>
          -- an ordering is spliced in, which is less deep than the group it comes from
          apply finds_group hthree
          intro order horder
          have hperm : order.Perm members := mem_orderings.1 horder
          have hmembers := (hproper _ List.mem_cons_self).2
          apply ih hlen _ _ (haccounts.group hperm)
          · rw [depth_group] at hfuel
            rw [depth_map_suit_append, hperm.length_eq]
            omega
          · intro q hq
            rw [List.mem_append, List.mem_map] at hq
            rcases hq with ⟨r, hr, rfl⟩ | hq
            · exact hmembers r (hperm.mem_iff.1 hr)
            · exact hrest q hq
        | suit p =>
          -- the three kinds differ in the lengths they try, and each of them goes on alike
          have hpos : 0 ≤ p.length := hproper _ List.mem_cons_self
          have hnext : ∀ n, Finds l fuel (lengths ++ [n]) queue (free - (n - p.minimum)) := by
            intro n
            apply ih _ _ hrest (haccounts.suit n)
            · rw [List.length_append, List.length_singleton]
              omega
            · rw [depth_suit] at hfuel
              omega
          match p with
          | ⟨n, .exact⟩ =>
            have h := hnext n
            rw [show free - (n - SuitPattern.minimum ⟨n, .exact⟩) = free by
              simp only [SuitPattern.minimum]; omega] at h
            exact finds_exact hthree hpos h
          | ⟨n, .atLeast⟩ =>
            refine finds_atLeast hthree hpos haccounts fun k => ?_
            have h := hnext (n + k)
            rwa [show free - (n + k - SuitPattern.minimum ⟨n, .atLeast⟩) = free - k by
              simp only [SuitPattern.minimum]; omega] at h
          | ⟨n, .atMost⟩ =>
            refine finds_atMost hthree haccounts fun k => ?_
            have h := hnext k
            rwa [show free - (k - SuitPattern.minimum ⟨n, .atMost⟩) = free - k by
              simp only [SuitPattern.minimum]; omega] at h

/-! ## What a run finds -/

theorem mem_dropRepeats (ls : List SuitLengths) :
    l ∈ SuitLengths.dropRepeats ls ↔ l ∈ ls := by
  induction ls using SuitLengths.dropRepeats.induct with
  | case1 m r ih =>
    rw [SuitLengths.dropRepeats, if_pos rfl, ih]
    constructor
    · exact List.mem_cons_of_mem m
    · intro h
      rcases List.mem_cons.1 h with rfl | h
      · exact List.mem_cons_self
      · exact h
  | case2 k m r hne ih =>
    rw [SuitLengths.dropRepeats, if_neg hne, List.mem_cons, ih, ← List.mem_cons]
  | case3 r hr => rw [SuitLengths.dropRepeats.eq_2 r hr]

theorem mem_sortDistinct (ls : List SuitLengths) :
    l ∈ SuitLengths.sortDistinct ls ↔ l ∈ ls := by
  rw [SuitLengths.sortDistinct, mem_dropRepeats]
  exact (List.mergeSort_perm ls _).mem_iff

/-- From the start, to go on as the queue says is to match it. -/
theorem completes_nil_iff {ps : List Pattern} :
    Completes ps [] l ↔ Matches ps l ∧ ∀ n ∈ l.toList, 0 ≤ n := by
  obtain ⟨s, h, d, c⟩ := l
  constructor
  · rintro ⟨row, rest, hrow, hfits, hl⟩
    rw [List.nil_append] at hl
    rw [← hl, SuitLengths.toList] at hfits
    obtain ⟨p₀, _, hs, h₁, rfl⟩ := List.forall₂_cons_right_iff.1 hfits
    obtain ⟨p₁, _, hh, h₂, rfl⟩ := List.forall₂_cons_right_iff.1 h₁
    obtain ⟨p₂, _, hd, h₃, rfl⟩ := List.forall₂_cons_right_iff.1 h₂
    obtain ⟨p₃, _, hc, h₄, rfl⟩ := List.forall₂_cons_right_iff.1 h₃
    rw [List.forall₂_nil_right_iff.1 h₄] at hrow
    refine ⟨⟨p₀, p₁, p₂, p₃, hrow, hs.2, hh.2, hd.2, hc.2⟩, ?_⟩
    simp only [SuitLengths.toList, List.forall_mem_cons, hs.1, hh.1, hd.1, hc.1, true_and,
      List.not_mem_nil, false_imp_iff, implies_true]
  · rintro ⟨⟨p₀, p₁, p₂, p₃, hrow, hs, hh, hd, hc⟩, hpos⟩
    simp only [SuitLengths.toList, List.forall_mem_cons] at hpos
    obtain ⟨h0, h1, h2, h3, -⟩ := hpos
    exact ⟨_, _, hrow,
      .cons ⟨h0, hs⟩ (.cons ⟨h1, hh⟩ (.cons ⟨h2, hd⟩ (.cons ⟨h3, hc⟩ .nil))), rfl⟩

end Expansion

open Expansion

/-- **The distributions of proper patterns are those of thirteen cards that match them.** -/
theorem Pattern.mem_distributions {ps : List Pattern} (hps : ∀ p ∈ ps, p.IsProper)
    {l : SuitLengths} :
    l ∈ distributions ps ↔
      Matches ps l ∧ (∀ n ∈ l.toList, 0 ≤ n) ∧ l.total = handSize := by
  have haccounts : Accounts (handSize - fixedMinimum ps) [] ps := by
    rw [Accounts, total_nil]
    omega
  have hfinds : Finds l (depth ps + 1) [] ps (handSize - fixedMinimum ps) :=
    finds_of_accounts (by decide) (Nat.lt_succ_self _) hps haccounts
  show l ∈ SuitLengths.sortDistinct (explore (depth ps + 1) [] (start ps)).found ↔ _
  rw [mem_sortDistinct, hfinds (start ps) rfl rfl, completes_nil_iff, and_assoc]
  simp only [start, List.not_mem_nil, false_or]

end ContractBridge
