import Firo.Serialize.Stream
import Firo.Spark.Primitives
import Firo.Lelantus.SchnorrVerifier
import Firo.Qt.AutoMintDialog
import Firo.Exodus.RpcPayload
import Firo.Verified.MintMetaSerialization
import Firo.Verified.NonceHashCache
import Firo.Verified.SchnorrVerifier
import Firo.Verified.AutoMintLocks
import Firo.Verified.AutoMintFlow
import Firo.Verified.RpcPayload
import Firo.Verified.RpcCommands
