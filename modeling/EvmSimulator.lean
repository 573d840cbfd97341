import EvmSimulator.Basic
import EvmSimulator.StateDB
import EvmSimulator.Hooks
import EvmSimulator.AccessList
import EvmSimulator.Gas
import EvmSimulator.Keccak
import EvmSimulator.Hex
import EvmSimulator.StorageKeys
import EvmSimulator.Rpc
import EvmSimulator.Interpreter
import EvmSimulator.Runtime
import EvmSimulator.IdealState
import EvmSimulator.Simulator
import EvmSimulator.Fork
import EvmSimulator.Requests
import EvmSimulator.Direct
import EvmSimulator.Termination
import EvmSimulator.RecordShape
import EvmSimulator.Refund
import EvmSimulator.RefundFork
