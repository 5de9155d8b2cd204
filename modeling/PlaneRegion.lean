import PlaneRegion.CommandLine
import PlaneRegion.Host.Desk
import PlaneRegion.Main
import PlaneRegion.Proofs.Brackets.Calls
import PlaneRegion.Proofs.Canvas.Recording
import PlaneRegion.Proofs.Curve.Advance
import PlaneRegion.Proofs.Curve.Axes
import PlaneRegion.Proofs.Curve.Coverage
import PlaneRegion.Proofs.Curve.Finite
import PlaneRegion.Proofs.Curve.Reversal
import PlaneRegion.Proofs.Curve.Straight
import PlaneRegion.Proofs.Document.RoundTrip
import PlaneRegion.Proofs.Document.Whole
import PlaneRegion.Proofs.Equation.Printing
import PlaneRegion.Proofs.Equation.Products
import PlaneRegion.Proofs.Region.Alternation
import PlaneRegion.Proofs.Region.Arrangement
import PlaneRegion.Proofs.Region.Enclosure
import PlaneRegion.Proofs.Region.Exchange
import PlaneRegion.Proofs.Region.Failure
import PlaneRegion.Proofs.Region.Form
import PlaneRegion.Proofs.Region.LoneBound
import PlaneRegion.Proofs.Region.Polynomial
import PlaneRegion.Proofs.Region.SquareRoots
import PlaneRegion.Proofs.Session.Forgetting
import PlaneRegion.Proofs.Session.Refusal
import PlaneRegion.Proofs.Task.Samples
import PlaneRegion.Proofs.Task.Texts
import PlaneRegion.Proofs.Task.Walks
import PlaneRegion.Proofs.Term.Reading
