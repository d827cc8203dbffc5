import SrtlaSend.Control.ClientStreams
import SrtlaSend.Properties.ControlProtocol

/-!
# Lines and replies

The control plane is the part of the control socket that sees whole lines, and its runs are those
of the socket without the bytes. What a client writes becomes the lines that are read from it and
the parts of lines that a pushed event has cost it.
-/

namespace SrtlaSend

open Runs

namespace ControlSocket

variable {fromStr : List Char → Except String Request} {s : ControlSocket} {conn : Nat}

/-! ### One step -/

section Runs

variable (fromStr) (s : ControlSocket) (es : List SocketEvent)

end Runs

end ControlSocket

namespace Sample

end Sample

end SrtlaSend
