import Reckoner.Network.Address
import Reckoner.Text.Utf8

/-!
# Exchanges

What the two ends of a connection do with their sockets, and how bytes arrive: in pieces of a
bounded size, until an empty piece tells that no more will come.
-/

namespace Reckoner

/-- What an end of a connection does with a socket. -/
inductive SocketCall where
  /-- A socket for addresses of a version was opened. -/
  | opened (version : Nat)
  /-- The address may be used again at once. -/
  | reusable
  /-- The socket was bound to an address and a port. -/
  | bound (host : String) (port : Nat)
  /-- The socket listens. -/
  | listening
  /-- A connection was accepted. -/
  | accepted
  /-- The socket was connected to an address and a port. -/
  | connected (host : String) (port : Nat)
  /-- Bytes were sent. -/
  | sent (bytes : Bytes)
  /-- No more bytes will be sent. -/
  | halfClosed
  /-- The socket was closed. -/
  | closed
  deriving DecidableEq, Repr

namespace Exchange

/-- The most bytes that arrive in one piece. -/
def pieceSize : Nat := 4096

/-- Bytes in pieces of at most a positive size; no bytes are no piece. -/
def cut (size : Nat) (bytes : Bytes) : List Bytes :=
  (List.range ((bytes.length + size - 1) / size)).map fun index =>
    (bytes.drop (index * size)).take size

/-- The pieces that arrive of chunks that the other end sends: those before the first empty chunk,
each cut to size. -/
def deliveries (chunks : List Bytes) : List Bytes :=
  (chunks.takeWhile fun chunk => !chunk.isEmpty).flatMap (cut pieceSize)

end Exchange

end Reckoner
