import ContractBridge.Bits
import ContractBridge.Block
import ContractBridge.Block.Count
import ContractBridge.Card
import ContractBridge.Card.Token
import ContractBridge.CardSet
import ContractBridge.CardSet.Draw
import ContractBridge.CardSet.Grid
import ContractBridge.CardSet.Reader
import ContractBridge.CardSet.Text
import ContractBridge.Deal
import ContractBridge.Deal.Reader
import ContractBridge.Deal.Summary
import ContractBridge.Deal.Text
import ContractBridge.DealRule
import ContractBridge.Dealer
import ContractBridge.Dealer.Builder
import ContractBridge.Double
import ContractBridge.Double.Division
import ContractBridge.Double.Shortest
import ContractBridge.Error
import ContractBridge.Floating
import ContractBridge.Floating.Reader
import ContractBridge.Hand
import ContractBridge.HandDescriptor
import ContractBridge.HandType
import ContractBridge.Literal
import ContractBridge.Literal.Number
import ContractBridge.MaskSource
import ContractBridge.Opening
import ContractBridge.Pattern
import ContractBridge.Pattern.Expansion
import ContractBridge.Pattern.Orderings
import ContractBridge.Pattern.Reader
import ContractBridge.Pattern.Token
import ContractBridge.Pattern.Tree
import ContractBridge.PointCount
import ContractBridge.PointRange
import ContractBridge.Proofs.CardSet.Draw
import ContractBridge.Proofs.CardSet.Lengths
import ContractBridge.Proofs.CardSet.Places
import ContractBridge.Proofs.CardSet.Renaming
import ContractBridge.Proofs.CardSet.Uniformity
import ContractBridge.Proofs.Deal.Division
import ContractBridge.Proofs.DealRule
import ContractBridge.Proofs.Dealer.Filling
import ContractBridge.Proofs.Dealer.Search
import ContractBridge.Proofs.Dealer.Soundness
import ContractBridge.Proofs.Dealer.Uniformity
import ContractBridge.Proofs.MaskSource
import ContractBridge.Proofs.Pattern.Expansion
import ContractBridge.Proofs.Pattern.Reader
import ContractBridge.Proofs.Pattern.Row
import ContractBridge.Proofs.Block
import ContractBridge.Proofs.Sequence
import ContractBridge.Proofs.Shape.Language
import ContractBridge.Proofs.Shape.Table
import ContractBridge.Seat
import ContractBridge.Seat.Reader
import ContractBridge.Seats
import ContractBridge.Shape
import ContractBridge.Shape.Cache
import ContractBridge.Shape.Family
import ContractBridge.Shape.LengthRange
import ContractBridge.Shape.Place
import ContractBridge.Shape.Probability
import ContractBridge.Suit
import ContractBridge.SuitLengths
import ContractBridge.Text.Blank
import ContractBridge.Text.CaseTable
import ContractBridge.Text.Digits
import ContractBridge.Text.Layout
import ContractBridge.Text.LetterCase
import ContractBridge.Text.Printable
import ContractBridge.Text.Quoted
import ContractBridge.Total
import ContractBridge.Vulnerability
import ContractBridge.Zar
import ContractBridge.Proofs.Pattern.Grammar
import ContractBridge.Proofs.Pattern.Acceptance
import ContractBridge.Proofs.Pattern.Arity
import ContractBridge.Proofs.Dealer.Predeal
import ContractBridge.Proofs.Text.Numeral
import ContractBridge.Proofs.CardSet.Holding
import ContractBridge.Proofs.Deal.Notation
import ContractBridge.Proofs.Deal.Session
import ContractBridge.Proofs.CardSet.Forms
import ContractBridge.Proofs.Dealer.Agreement
import ContractBridge.Proofs.Deal.Joining
import ContractBridge.Proofs.Shape.Members
import ContractBridge.Proofs.Shape.Rows
import ContractBridge.Proofs.Shape.Bounds
import ContractBridge.Proofs.Shape.Expression
import ContractBridge.Proofs.Pattern.Listing
import ContractBridge.Proofs.Dealer.Run
import ContractBridge.Proofs.Dealer.Outcome
import ContractBridge.Proofs.Dealer.Supply
import ContractBridge.Proofs.Dealer.Unconstrained
import ContractBridge.Proofs.CardSet.TakingOut
import ContractBridge.Proofs.CardSet.Progress
import ContractBridge.Proofs.Pattern.Printing
import ContractBridge.Proofs.Pattern.FaultPlace
import ContractBridge.Proofs.CardSet.Signs
import ContractBridge.Proofs.CardSet.Wording
import ContractBridge.Proofs.Deal.Refusal
import ContractBridge.Proofs.Deal.OneLine
import ContractBridge.Proofs.Deal.Record
import ContractBridge.Proofs.Shape.Regrouping
import ContractBridge.Proofs.Shape.Lookup
import ContractBridge.Proofs.Shape.Order
import ContractBridge.Proofs.Shape.Hands
import ContractBridge.Proofs.Shape.History
import ContractBridge.Proofs.CardSet.Honours
import ContractBridge.Proofs.HandType.Points
import ContractBridge.Proofs.HandType.Steps
import ContractBridge.Proofs.CardSet.Counting
import ContractBridge.Proofs.Double.Rounding
import ContractBridge.Proofs.Shape.Probability
import ContractBridge.Proofs.CardSet.Climbing
import ContractBridge.Proofs.CardSet.Grid
import ContractBridge.Proofs.PointCount
import ContractBridge.Proofs.CardSet.SuitNames
import ContractBridge.Proofs.Zar
import ContractBridge.Proofs.Deal.Balance
import ContractBridge.Proofs.Double.Integers
import ContractBridge.Proofs.Vulnerability
import ContractBridge.Proofs.Dealer.Succession
import ContractBridge.Proofs.HandDescriptor
import ContractBridge.Proofs.Opening.PolishClub
import ContractBridge.Proofs.Opening.WeakTwo
import ContractBridge.Proofs.CardSet.Enumeration
import ContractBridge.Proofs.CardSet.Squares
import ContractBridge.Proofs.Pattern.Recursion
import ContractBridge.Proofs.Double.Shortest
import ContractBridge.Proofs.Opening.Lavazza
