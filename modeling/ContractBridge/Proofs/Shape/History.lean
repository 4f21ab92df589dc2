/-
The history of a cache.

A cache that starts without entries is asked for shapes and cleared, in any order. Its answers do
not show any of this: each of them is what reading the pattern and giving its distributions one by
one comes to, the shape with its bounds or the same error (`answers_eq`). What the history decides is
which patterns have an entry. These are the ones that were asked for since the cache was cleared last
and got a shape (`IsKept`), by one step lemma for a question and one for a clearing; and since a
pattern with an entry is never entered again, there are as many entries as such patterns.
-/
import Mathlib.Data.Set.Card
import ContractBridge.Proofs.Shape.Caching
import ContractBridge.Proofs.Shape.Regrouping

set_option autoImplicit false

namespace ContractBridge

/-! ## Compiling without a cache -/

namespace Shape

/-- **The shape of a pattern, without a cache:** the distributions that the pattern lists are given
one by one. -/
def compiled (text : String) : Except Error Shape := do
  ofRows (rowsOfNumbers (← Pattern.compile text))

/-- What a cache enters for a pattern is what compiling the pattern gives. -/
theorem ofPattern_eq_compiled (text : String) : ofPattern text = compiled text := by
  unfold ofPattern compiled Pattern.compile
  cases hparse : Pattern.parse text with
  | error e => rfl
  | ok ps =>
    have hhands : ∀ l ∈ Pattern.distributions ps, l.IsOfHand := fun l hl =>
      SuitLengths.isOfHand_iff.2
        ((Pattern.mem_distributions (Pattern.isProper_of_parse hparse)).1 hl).2
    exact (ofRows_rowsOfNumbers hhands).symm

end Shape

namespace ShapeCache

/-! ## Requests -/

/-- **What is done with a cache.** -/
inductive Request where
  | ask (text : String)
  | clear
  deriving DecidableEq, Repr

/-- What compiling gives for the pattern that is asked for. -/
def Request.compiled? : Request → Option (Except Error Shape)
  | ask text => some (Shape.compiled text)
  | clear => none

/-- The cache after a request. -/
def after (c : ShapeCache) : Request → ShapeCache
  | .ask text => (c.get text).2
  | .clear => c.clear

/-- The cache after some requests, one behind another. -/
def afterAll (c : ShapeCache) (requests : List Request) : ShapeCache := requests.foldl after c

/-- **The answers of a cache** to the questions among some requests, in their order. -/
def answers (c : ShapeCache) : List Request → List (Except Error Shape)
  | [] => []
  | .ask text :: requests =>
    (c.get text).1.map NumberedShape.shape :: (c.after (.ask text)).answers requests
  | .clear :: requests => (c.after .clear).answers requests

/-- **Whether a pattern was asked for and got a shape since the last clearing.** -/
def IsKept (requests : List Request) (text : String) : Prop :=
  ∃ front rest, requests = front ++ .ask text :: rest ∧ .clear ∉ rest ∧
    ∃ entry, ((afterAll .new front).get text).1 = .ok entry

variable {c : ShapeCache} {requests : List Request} {text asked : String}

theorem Reached.after (hc : c.Reached) (r : Request) : (c.after r).Reached := by
  cases r with
  | ask text => exact hc.get text
  | clear => exact hc.clear

theorem Reached.afterAll (hc : c.Reached) (requests : List Request) :
    (c.afterAll requests).Reached := by
  induction requests generalizing c with
  | nil => exact hc
  | cons r requests ih => exact ih (hc.after r)

theorem afterAll_concat (c : ShapeCache) (requests : List Request) (r : Request) :
    c.afterAll (requests ++ [r]) = (c.afterAll requests).after r := by
  rw [afterAll, List.foldl_append]
  rfl

/-! ## Answers -/

/-- **Each answer is what compiling the pattern gives,** whatever was asked before. -/
theorem answers_eq (hc : c.Reached) (requests : List Request) :
    c.answers requests = requests.filterMap Request.compiled? := by
  induction requests generalizing c with
  | nil => rfl
  | cons r requests ih =>
    cases r with
    | ask text =>
      rw [answers, map_get hc, Shape.ofPattern_eq_compiled, ih (hc.after _)]
      rfl
    | clear =>
      rw [answers, ih (hc.after _)]
      rfl

/-! ## Entries -/

/-- The patterns that have an entry. -/
def keys (c : ShapeCache) : List String := c.entries.map Prod.fst

theorem contains_iff_mem_keys : c.contains text = true ↔ text ∈ c.keys := by
  simp only [contains, find?, keys, List.lookup_isSome_iff, beq_iff_eq, List.mem_map]
  exact exists_congr fun _ => and_congr_right fun _ => eq_comm

/-- What a question does to a cache: nothing if the pattern has an entry or no shape, and else the
pattern is entered. -/
theorem keys_get (c : ShapeCache) (asked : String) :
    ((∃ entry, (c.get asked).1 = .ok entry) ∧ asked ∈ c.keys ∧ (c.get asked).2.keys = c.keys) ∨
    ((∃ entry, (c.get asked).1 = .ok entry) ∧ asked ∉ c.keys ∧
      (c.get asked).2.keys = asked :: c.keys) ∨
    ((¬ ∃ entry, (c.get asked).1 = .ok entry) ∧ (c.get asked).2.keys = c.keys) := by
  have hkeys : c.contains asked = true ↔ asked ∈ c.keys := contains_iff_mem_keys
  unfold contains at hkeys
  unfold get
  cases hfind : c.find? asked with
  | some entry =>
    rw [hfind] at hkeys
    exact .inl ⟨⟨entry, rfl⟩, hkeys.1 rfl, rfl⟩
  | none =>
    rw [hfind] at hkeys
    cases hshape : Shape.ofPattern asked with
    | ok shape => exact .inr (.inl ⟨⟨_, rfl⟩, fun h => absurd (hkeys.2 h) (by simp), rfl⟩)
    | error e => exact .inr (.inr ⟨(by rintro ⟨entry, h⟩; cases h), rfl⟩)

/-- After a question the entries are those before and, if it got a shape, the pattern itself. -/
theorem mem_keys_get : text ∈ (c.get asked).2.keys ↔
    text ∈ c.keys ∨ text = asked ∧ ∃ entry, (c.get asked).1 = .ok entry := by
  rcases keys_get c asked with ⟨hok, hmem, hkeys⟩ | ⟨hok, -, hkeys⟩ | ⟨herror, hkeys⟩
  · rw [hkeys, and_iff_left hok]
    exact (or_iff_left_of_imp fun h => h ▸ hmem).symm
  · rw [hkeys, and_iff_left hok, List.mem_cons, or_comm]
  · rw [hkeys, or_iff_left fun h => herror h.2]

/-- No pattern has two entries. -/
theorem nodup_keys (hc : c.Reached) : c.keys.Nodup := by
  induction hc with
  | new => exact .nil
  | clear => exact .nil
  | @get c asked _ ih =>
    rcases keys_get c asked with ⟨-, -, hkeys⟩ | ⟨-, hnew, hkeys⟩ | ⟨-, hkeys⟩
    · rwa [hkeys]
    · rw [hkeys]
      exact List.nodup_cons.2 ⟨hnew, ih⟩
    · rwa [hkeys]

/-! ## What is kept -/

theorem not_isKept_nil : ¬ IsKept [] text := by
  rintro ⟨front, rest, h, -⟩
  cases front <;> cases h

/-- A clearing leaves nothing kept: no question is behind it. -/
theorem not_isKept_clear : ¬ IsKept (requests ++ [.clear]) text := by
  rintro ⟨front, rest, h, hrest, -⟩
  rcases append_singleton_eq_append_cons_iff.1 h with ⟨-, -, hlast⟩ | ⟨rest, rfl, -⟩
  · cases hlast
  · exact hrest (List.mem_append_right rest (List.mem_singleton_self _))

/-- A question keeps what was kept, and its own pattern if it got a shape. -/
theorem isKept_ask : IsKept (requests ++ [.ask asked]) text ↔
    IsKept requests text ∨
      text = asked ∧ ∃ entry, ((afterAll .new requests).get asked).1 = .ok entry := by
  constructor
  · rintro ⟨front, rest, h, hrest, hok⟩
    rcases append_singleton_eq_append_cons_iff.1 h with ⟨-, rfl, hlast⟩ | ⟨rest, rfl, rfl⟩
    · cases hlast
      exact .inr ⟨rfl, hok⟩
    · exact .inl ⟨front, rest, rfl, fun hclear => hrest (List.mem_append_left _ hclear), hok⟩
  · rintro (⟨front, rest, rfl, hrest, hok⟩ | ⟨rfl, hok⟩)
    · refine ⟨front, rest ++ [.ask asked], by rw [List.append_assoc, List.cons_append], ?_, hok⟩
      rw [List.mem_append, List.mem_singleton, or_iff_left (by rintro ⟨⟩)]
      exact hrest
    · exact ⟨requests, [], rfl, List.not_mem_nil, hok⟩

/-- **The patterns with an entry are those that are kept.** -/
theorem mem_keys_afterAll : text ∈ (afterAll .new requests).keys ↔ IsKept requests text := by
  induction requests using List.reverseRecOn with
  | nil => exact iff_of_false List.not_mem_nil not_isKept_nil
  | append_singleton requests r ih =>
    rw [afterAll_concat]
    cases r with
    | ask asked => rw [isKept_ask, ← ih]; exact mem_keys_get
    | clear => exact iff_of_false List.not_mem_nil not_isKept_clear

/-- There are as many entries as patterns that are kept. -/
theorem encard_isKept (requests : List Request) :
    {text | IsKept requests text}.encard = (afterAll .new requests).size := by
  have hset : {text | IsKept requests text} =
      ((afterAll .new requests).keys.toFinset : Set String) := by
    ext text
    rw [Set.mem_ofPred_eq, ← mem_keys_afterAll, Finset.mem_coe, List.mem_toFinset]
  rw [hset, Set.encard_coe_eq_coe_finsetCard,
    List.toFinset_card_of_nodup (nodup_keys (Reached.new.afterAll requests)), keys,
    List.length_map]
  rfl

/-- **A cache is not noticed.** Whatever is asked of a new cache, and whenever it is cleared in
between, each answer is what compiling the pattern gives: the same members and bounds, or the same
error. In the end the cache has an entry for exactly the patterns that were asked for and got a shape
since it was cleared last, for no pattern that cannot be compiled, and one for each of them. -/
theorem answers_new (requests : List Request) :
    answers .new requests = requests.filterMap Request.compiled? ∧
      (∀ text, (afterAll .new requests).contains text = true ↔ IsKept requests text) ∧
      (∀ text, ¬ ((afterAll .new requests).contains text = true ∧
        ∃ e, Shape.compiled text = .error e)) ∧
      {text | IsKept requests text}.encard = (afterAll .new requests).size := by
  refine ⟨answers_eq .new requests, fun text => contains_iff_mem_keys.trans mem_keys_afterAll, ?_,
    encard_isKept requests⟩
  rintro text ⟨hcontains, e, herror⟩
  obtain ⟨entry, hentry⟩ := Option.isSome_iff_exists.1 hcontains
  have hshape := ofPattern_of_find? (Reached.new.afterAll requests) hentry
  rw [Shape.ofPattern_eq_compiled, herror] at hshape
  cases hshape

end ShapeCache

end ContractBridge
