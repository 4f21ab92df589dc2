/-
Building a dealer.

The settings of a dealer are made one by one, and every setting can be made again. Predealt cards
leave the deck at once, so that a card asked for twice is found at once. When a seat is predealt
again its cards go back to the deck first, and they stay there even if the new cards are refused.
-/
import ContractBridge.Dealer
import ContractBridge.Opening

set_option autoImplicit false

namespace ContractBridge

/-- **A dealer under construction.** -/
structure DealerBuilder where
  hands : Seats (Option CardSet)
  descriptors : Seats (Option HandDescriptor)
  accept : Option NamedRule
  vulnerability : Vulnerability
  maxAttempts : Option Int
  source : SourceSetting
  deck : CardSet

namespace DealerBuilder

/-- The builder before its first step. -/
def new : DealerBuilder :=
  { hands := .same none
    descriptors := .same none
    accept := none
    vulnerability := .none
    maxAttempts := some Dealer.defaultMaxAttempts
    source := .fresh
    deck := .deck }

/-- Whether some predealt cards replace others of the seat. -/
def replaces (b : DealerBuilder) (seat : Seat) (cards : CardSet) : Bool :=
  cards.size ≤ handSize && (b.hands.get seat).isSome

/-- What is said when a seat is predealt again. -/
def predealWarnings (b : DealerBuilder) (seat : Seat) (cards : CardSet) : List Warning :=
  if b.replaces seat cards then [.predealReplaced seat] else []

/-- The deck with the cards of a seat returned. -/
def returned (b : DealerBuilder) (seat : Seat) : CardSet :=
  match b.hands.get seat with
  | some cards => b.deck ∪ cards
  | none => b.deck

/-- **Some cards predealt to a seat.** -/
def predeal (seat : Seat) (cards : CardSet) : EStateM Error DealerBuilder Unit := fun b =>
  if handSize < cards.size then .error (.predealTooLarge seat cards.size) b
  else
    let b := { b with deck := b.returned seat }
    if cards.subset b.deck then
      .ok () { b with deck := b.deck \ cards, hands := b.hands.set seat (some cards) }
    else .error (.ofSharedCards (cards \ b.deck)) b

/-- The cards of a seat as they are handed over, where there have to be some. -/
def neededCards (seat : Literal) (cards : Option CardSet) : Except Error (Seat × CardSet) := do
  let seat ← Seat.ofLiteral seat
  match cards with
  | some cards => return (seat, cards)
  | none => .error .wrongKind

/-- The builder with a rule in place of the one before. -/
def withRule (b : DealerBuilder) (accept : Option NamedRule) : DealerBuilder := { b with accept }

/-- The builder with the descriptor of a seat set, or taken away. -/
def withDescriptor (b : DealerBuilder) (seat : Seat) (descriptor : Option HandDescriptor) :
    DealerBuilder :=
  { b with descriptors := b.descriptors.set seat descriptor }

/-- The builder with the vulnerability that a value is the number of. -/
def withVulnerability (b : DealerBuilder) (v : Literal) : Except Error DealerBuilder := do
  return { b with vulnerability := ← Vulnerability.ofLiteral v }

/-- The builder with a limit on the attempts, or none. -/
def withMaxAttempts (b : DealerBuilder) (maxAttempts : Option Int) : DealerBuilder :=
  { b with maxAttempts }

/-- The builder with a random source. -/
def withSource (b : DealerBuilder) (source : SourceSetting) : DealerBuilder := { b with source }

/-- **The dealer as built so far.** -/
def build (b : DealerBuilder) : Except Error Dealer :=
  Dealer.new b.hands b.descriptors b.accept (.number b.vulnerability.index) b.maxAttempts b.source

/-- The builder after a dealer that it built has worked: they share the source and the rule. -/
def resume (b : DealerBuilder) (s : DealerSession) : DealerBuilder :=
  let accept := match b.accept, s.rule with
    | some accept, some rule => some { accept with rule }
    | accept, _ => accept
  let source := match b.source with
    | .given _ => .given s.source
    | source => source
  { b with accept, source }

end DealerBuilder

namespace Opening

/-- The rule that a seat, or any seat where none is named, opens a Lavazza three no trump. -/
def lavazzaRule (seat : Option Seat) : DealRule :=
  match seat with
  | some seat => .onHand seat isLavazza
  | none => .test fun hands => hands.toList.anyM isLavazza

/-- **The dealer of hands that open a Lavazza three no trump.** -/
def lavazzaDealer (seat : Literal) (source : SourceSetting) (maxAttempts : Option Int) :
    Except Error Dealer := do
  let seat ← match seat with
    | .none => pure none
    | seat => some <$> Seat.ofLiteral seat
  (DealerBuilder.new.withRule (some ⟨"<lambda>", lavazzaRule seat⟩) |>.withSource source
    |>.withMaxAttempts maxAttempts).build

end Opening

end ContractBridge
