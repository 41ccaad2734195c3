import Aggchain.Lib.Base64
import Aggchain.Lib.Bytes
import Aggchain.Lib.Fallible
import Aggchain.Lib.HashChain
import Aggchain.Lib.Hex
import Aggchain.Lib.History
import Aggchain.Lib.Machine
import Aggchain.Lib.Numeral
import Aggchain.Lib.Radix
import Aggchain.Lib.SocketAddr
import Aggchain.Lib.Toml
import Aggchain.Lib.UnstableSort
import Aggchain.External
import Aggchain.Guest.StaticCall
import Aggchain.Guest.FilterValues
import Aggchain.Guest.Bridge
import Aggchain.Guest.L2View
import Aggchain.Guest.BridgeSound
import Aggchain.Guest.BridgeErrors
import Aggchain.Guest.BridgeJoin
import Aggchain.Guest.FullExecutionProof
import Aggchain.Guest.Proof
import Aggchain.Host.Inputs
import Aggchain.Host.Contracts
import Aggchain.Host.Builder
import Aggchain.Host.L2Execution
import Aggchain.Host.Completeness
import Aggchain.Host.Proposer
import Aggchain.Host.Service
import Aggchain.Host.Conversion
import Aggchain.Host.Rpc
import Aggchain.Host.RequestErrors
import Aggchain.Host.Selection
import Aggchain.Host.EndToEnd
import Aggchain.Host.Refusal
import Aggchain.Host.Answers
import Aggchain.Host.Settlements
import Aggchain.Host.Context
import Aggchain.Host.Erigon
import Aggchain.Host.Executor
import Aggchain.Host.ExecutorRuns
import Aggchain.Host.ProverError
import Aggchain.Host.Config
import Aggchain.Host.ConfigRoundTrip
import Aggchain.Host.ProverService
import Aggchain.Host.Serving
import Aggchain.Host.Buffer
import Aggchain.Host.ProverRpc
import Aggchain.Host.Engine
import Aggchain.Host.AggkitConfig
import Aggchain.Host.Startup
