import HermezNode.Go.Bytes
import HermezNode.Common.Codec
import HermezNode.Common.L2Tx
import HermezNode.Common.DataAvailability
import HermezNode.Api.HezString
import HermezNode.Eth.ForgeBatch
import HermezNode.Eth.L1UserTx
import HermezNode.Coordinator.ProversPool
import HermezNode.HistoryDB.APIConn
import HermezNode.HistoryDB.Tables
import HermezNode.Api.Responses
import HermezNode.Eth.RollupEvents
import HermezNode.HistoryDB.Pagination
import HermezNode.HistoryDB.NextForgers
import HermezNode.Api.Forgers
import HermezNode.Api.Status
import HermezNode.HistoryDB.Metrics
import HermezNode.Synchronizer.Machine
import HermezNode.Synchronizer.Consistency
import HermezNode.Synchronizer.Linkage
import HermezNode.Test.Generators
