import Bundler.Machine.Console
import Bundler.Main
import Bundler.Proofs.Load.Cycles
import Bundler.Proofs.Load.Listing
import Bundler.Proofs.Load.Sources
import Bundler.Proofs.Path.Normal
import Bundler.Proofs.Load.Composition
import Bundler.Proofs.Unit.Position
import Bundler.Proofs.Path.Denotation
import Bundler.Proofs.Path.Parents
import Bundler.Proofs.Lexing.Directives
import Bundler.Proofs.Load.Stops
import Bundler.Proofs.Load.Reads
import Bundler.Proofs.Tree.Replay
import Bundler.Proofs.Load.Respelling
import Bundler.Proofs.Native.Inputs
import Bundler.Proofs.Native.CommandLine
import Bundler.Proofs.Native.Precedence
import Bundler.Proofs.Lexing.Units
import Bundler.Proofs.Load.Places
import Bundler.Proofs.Load.Limits
import Bundler.Proofs.Unit.Order
import Bundler.Proofs.Arguments.Items
import Bundler.Proofs.Arguments.LinkLine
import Bundler.Proofs.Manifest.RoundTrip
import Bundler.Proofs.Lexing.Partition
import Bundler.Proofs.Lexing.Headings
import Bundler.Proofs.Tree.LeastRoutes
import Bundler.Proofs.Lexing.Joins
import Bundler.Proofs.Native.Layers
import Bundler.Proofs.Native.Search
import Bundler.Proofs.Native.Running
import Bundler.Proofs.Load.Calls
