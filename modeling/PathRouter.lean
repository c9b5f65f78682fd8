import PathRouter.Main
import PathRouter.Proofs.Net.SocketAddress
import PathRouter.Proofs.Pattern.Extension
import PathRouter.Proofs.Router.Captures
import PathRouter.Proofs.Router.Dimensions
import PathRouter.Proofs.Router.Live
import PathRouter.Proofs.Router.Order
import PathRouter.Proofs.Router.SamplePaths
import PathRouter.Proofs.Sample.Siblings
import PathRouter.Proofs.Server.Captures
import PathRouter.Proofs.Server.Dispatch
import PathRouter.Proofs.Server.Metrics
import PathRouter.Proofs.Server.Table
import PathRouter.Proofs.Settings.Fields
import PathRouter.Proofs.SmallMap.History
import PathRouter.Proofs.Trie.Precedence
import PathRouter.Proofs.Trie.Sameness
