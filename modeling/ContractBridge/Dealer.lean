/-
Dealing under constraints.

A dealer fills the four hands from the cards that are not predealt, keeps the hands if every
descriptor accepts its seat's hand and the rule accepts all four, and tries again otherwise. It
stops when hands are kept, when the attempts are used up, when it was told to cancel, or when
something fails. What changes from deal to deal is the session: the masks that are left, the rule
as it stands, and whether a cancellation was asked for.
-/
import ContractBridge.DealRule
import ContractBridge.HandDescriptor

set_option autoImplicit false

namespace ContractBridge

/-- A rule on deals and what it is called. -/
structure NamedRule where
  name : String
  rule : DealRule

/-- **A dealer.** -/
structure Dealer where
  /-- The cards that a seat is sure to hold; without any the seat is dealt a whole hand. -/
  predeal : Seats (Option CardSet)
  descriptors : Seats (Option HandDescriptor)
  accept : Option NamedRule
  vulnerability : Vulnerability
  /-- How often a deal is attempted; without a limit, for as long as it takes. -/
  maxAttempts : Option Nat
  source : MaskSource
  /-- The cards that are not predealt. -/
  deck : CardSet

/-- **What a dealer goes on with.** -/
structure DealerSession where
  source : MaskSource
  rule : Option DealRule
  cancelled : Bool

/-- A computation of a dealer at work; what it did to the session stays done if it fails. -/
abbrev Dealing (α : Type) := EStateM Error DealerSession α

/-! ## Settings -/

/-- A setting for each seat as it is handed over: none, four entries in seat order, or entries
under the names of seats. -/
inductive PerSeat (α : Type) where
  | unset
  | entries (l : List α)
  | named (l : List (Literal × α))

namespace PerSeat

variable {α β : Type}

/-- Named entries with one more. A name that was used keeps its place and takes the later entry. -/
def addNamed (l : List (Literal × α)) (entry : Literal × α) : List (Literal × α) :=
  if l.any fun other => other.1.isSame entry.1 then
    l.map fun other => if other.1.isSame entry.1 then (other.1, entry.2) else other
  else l ++ [entry]

/-- The setting that named entries make, each name once. -/
def ofNamed (l : List (Literal × α)) : PerSeat α := named (l.foldl addNamed [])

/-- Named entries put in their places; of two for one seat the later one counts. -/
def place (convert : α → Except Error (Option β)) :
    List (Literal × α) → Seats (Option β) → Except Error (Seats (Option β))
  | [], seats => .ok seats
  | (name, a) :: rest, seats => do
    let b ← convert a
    let seat ← Seat.ofLiteral name
    place convert rest (seats.set seat b)

/-- **The four entries of a setting.** -/
def resolve (convert : α → Except Error (Option β)) : PerSeat α → Except Error (Seats (Option β))
  | unset => .ok (.same none)
  | entries [n, e, s, w] => do
    return ⟨← convert n, ← convert e, ← convert s, ← convert w⟩
  | entries _ => .error .wrongSettingCount
  | named l => place convert l (.same none)

end PerSeat

namespace Dealer

/-- How often a deal is attempted if nothing else is said. -/
def defaultMaxAttempts : Int := 1000000

/-- A limit on attempts; it must be positive. -/
def checkLimit : Option Int → Except Error (Option Nat)
  | none => .ok none
  | some n => if n ≤ 0 then .error .attemptLimit else .ok (some n.toNat)

/-- The cards used after a seat's predealt cards are laid beside those used before. -/
def useSeat (seat : Seat) (cards : Option CardSet) (used : CardSet) : Except Error CardSet :=
  match cards with
  | none => .ok used
  | some cards =>
    if handSize < cards.size then .error (.predealTooLarge seat cards.size)
    else if (used ∩ cards).isEmpty then .ok (used ∪ cards)
    else .error (.ofSharedCards (used ∩ cards))

/-- The cards that are predealt: at most thirteen to a seat and none of them twice. -/
def usedCards (predeal : Seats (Option CardSet)) : Except Error CardSet := do
  let used ← useSeat .north predeal.north ∅
  let used ← useSeat .east predeal.east used
  let used ← useSeat .south predeal.south used
  useSeat .west predeal.west used

/-- **A dealer from its settings.** -/
def new (predeal : Seats (Option CardSet)) (descriptors : Seats (Option HandDescriptor))
    (accept : Option NamedRule) (vulnerability : Literal) (maxAttempts : Option Int)
    (source : SourceSetting) : Except Error Dealer := do
  let vulnerability ← Vulnerability.ofLiteral vulnerability
  let maxAttempts ← checkLimit maxAttempts
  let source ← source.resolve
  let used ← usedCards predeal
  return { predeal, descriptors, accept, vulnerability, maxAttempts, source,
           deck := CardSet.deck \ used }

/-- The session that a dealer starts with. -/
def start (d : Dealer) (cancelled : Bool) : DealerSession :=
  ⟨d.source, d.accept.map (·.rule), cancelled⟩

/-! ## One attempt -/

/-- A seat's hand and the deck without the cards that were drawn for it. -/
def fillSeat (held : Option CardSet) (deck : CardSet) : Drawing (Hand × CardSet) :=
  match held with
  | none => do
    let drawn ← deck.draw handSize
    return (⟨drawn.given⟩, drawn.rest)
  | some cards =>
    if cards.size < handSize then do
      let drawn ← deck.draw (handSize - cards.size : Nat)
      return (⟨cards ∪ drawn.given⟩, drawn.rest)
    else return (⟨cards⟩, deck)

/-- **Four hands,** drawn from the deck seat by seat. -/
def drawHands (d : Dealer) : Drawing Hands := do
  let (north, deck) ← fillSeat d.predeal.north d.deck
  let (east, deck) ← fillSeat d.predeal.east deck
  let (south, deck) ← fillSeat d.predeal.south deck
  let (west, _) ← fillSeat d.predeal.west deck
  return ⟨north, east, south, west⟩

/-- Whether every descriptor accepts its seat's hand, from north on. -/
def fits (d : Dealer) (hands : Hands) : Except Error Bool :=
  Seat.all.allM fun seat =>
    match d.descriptors.get seat with
    | some descriptor => descriptor.accepts (hands.get seat).cards
    | none => .ok true

/-- The rule called on four hands, if there is one. -/
def consult (hands : Hands) : Dealing Bool := fun s =>
  match s.rule with
  | none => .ok true s
  | some rule =>
    let ruling := rule.call hands
    let s := { s with rule := some ruling.after, cancelled := s.cancelled || ruling.cancels }
    match ruling.verdict with
    | .ok verdict => .ok verdict s
    | .error e => .error e s

/-- Masks taken from the session's source. -/
def drawing {α : Type} (x : Drawing α) : Dealing α := fun s =>
  match x s.source with
  | .ok a source => .ok a { s with source }
  | .error e source => .error e { s with source }

/-- One attempt: four hands, if they are accepted. -/
def attempt (d : Dealer) : Dealing (Option Hands) := do
  let hands ← drawing d.drawHands
  if ← liftExcept (d.fits hands) then
    if ← consult hands then return some hands else return none
  else return none

/-! ## Dealing -/

/-- How many attempts can differ when there is no limit. An attempt takes a mask or it deals the
cards of the attempt before it, and then only a cancellation that the rule still has to ask for
makes a difference. -/
def horizon (s : DealerSession) : Nat :=
  s.source.size + (s.rule.elim 0 DealRule.pending) + 2

/-- Attempts until four hands are accepted, up to `fuel` of them after `rejected` others. A
cancellation is noticed before an attempt, if `watched`. -/
def search (d : Dealer) (watched : Bool) (exhausted : Error) : Nat → Nat → Dealing Hands
  | 0, _ => throw exhausted
  | fuel + 1, rejected => do
    if watched && (← get).cancelled then throw (.cancelled rejected)
    match ← d.attempt with
    | some hands => return hands
    | none => d.search watched exhausted fuel (rejected + 1)

/-- The accepted hands of a session. -/
def accepted (d : Dealer) (watched : Bool) : Dealing Hands := fun s =>
  match d.maxAttempts with
  | some limit => d.search watched (.unsatisfied limit) limit 0 s
  | none => d.search watched .endless (horizon s) 0 s

/-- **A deal that meets every constraint.** -/
def deal (d : Dealer) (number : Int) (watched : Bool) : Dealing Deal := do
  let hands ← d.accepted watched
  liftExcept (Deal.ofHands hands d.vulnerability number)

/-- The same with masks from another source, where one is asked for; the session keeps its own. -/
def dealWith (d : Dealer) (source : Option SourceSetting) (number : Int) (watched : Bool) :
    Dealing Deal := fun s =>
  match source.map SourceSetting.resolve with
  | none => d.deal number watched s
  | some (.error e) => .error e s
  | some (.ok source) =>
    match d.deal number watched { s with source } with
    | .ok deal after => .ok deal { after with source := s.source }
    | .error e after => .error e { after with source := s.source }

/-- The highest board number of a set of boards. -/
def maxBoard : Nat := 128

/-- **Several deals,** one after the other. The boards are numbered from 1 to the highest number
and then from 1 again. -/
def dealMany (d : Dealer) (n : Int) (watched : Bool) : Dealing (List Deal) :=
  if n ≤ 0 then throw .dealCount
  else (List.range n.toNat).mapM fun i => d.deal (i % maxBoard + 1 : Nat) watched

/-- The sentence on how long several deals took. -/
def timeReport (n : Int) (seconds rate : String) : List Char :=
  "Dealt ".toList ++ Text.decimal n ++ " hands in ".toList ++ seconds.toList ++
    " seconds (".toList ++ rate.toList ++ " hands/second).\n".toList

/-! ## Text -/

/-- The lines on a seat: the cards it is sure to hold and its descriptor. -/
def seatLines (d : Dealer) (seat : Seat) : Except Error (List (List Char)) := do
  let lead := ' ' :: ' ' :: seat.title.toList
  let held ← match d.predeal.get seat with
    | some cards => do pure [lead ++ " holds ".toList ++ (← cards.text)]
    | none => pure []
  let described := match d.descriptors.get seat with
    | some descriptor => [lead ++ ": ".toList ++ descriptor.shown]
    | none => []
  return held ++ described

/-- **The settings of a dealer,** line by line. -/
def shown (d : Dealer) : Except Error (List Char) := do
  let seats ← Seat.all.mapM d.seatLines
  let rule := match d.accept with
    | some accept => ["  accept: ".toList ++ accept.name.toList]
    | none => []
  return Text.joinLines ("Dealer:".toList :: seats.flatten ++ rule ++
    ["  vulnerability: ".toList ++ d.vulnerability.tag.toList])

end Dealer

end ContractBridge
