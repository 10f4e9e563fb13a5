import FileGateway.Address
import FileGateway.GatewayError

/-! What the components that talk to gateways share, and the address under which a host is
contacted. -/
namespace FileGateway

/-- The limits of a cache, where zero stands for none. The lifetime is in
milliseconds. -/
structure CacheLimits where
  size : Nat
  lifetime : Nat
  deriving DecidableEq, Repr

structure Settings where
  /-- The known hosts, with or without a port. -/
  hosts : List String := []
  /-- The port of hosts without one. -/
  defaultPort : UInt16 := 9090
  /-- The limits of the pool of clients. -/
  instanceCache : CacheLimits := ⟨64, 300000⟩
  /-- The limits of the caches of file metadata. -/
  metadataCache : CacheLimits := ⟨1024, 10000⟩
  inputBufferSize : Nat := 64 * 1024
  outputBufferSize : Nat := 64 * 1024
  blockSize : UInt64 := 4 * 1024 * 1024
  /-- How many hosts are asked at once; zero counts as one. -/
  fanoutWorkers : Nat := 8
  /-- The host named for blocks that no gateway holds. -/
  localPlaceholder : String := "localhost"
  deriving DecidableEq, Repr

/-- The address of a host: the host itself without the blanks around it, with the
default port if it has none. -/
def Settings.resolve (settings : Settings) (host : String) : Except GatewayError String :=
  let trimmed := Blank.trim host.toList
  let text := String.ofList trimmed
  match Address.splitLastColon trimmed with
  | none =>
    if trimmed = [] then .error (.invalidHost text)
    else .ok (Address.ofPort text settings.defaultPort.toNat)
  | some (name, port) =>
    if name = [] ∨ (Address.port? port).isNone then .error (.invalidHost text)
    else .ok text

end FileGateway
