import FlowTree.Proofs.Run.Calls
import FlowTree.Proofs.Run.Envelope

/-! # Payloads

A node that answers with success lists items that give a template under a name. An item that gives no name is dropped,
and so is one whose name the envelope has for itself. Of several items with one name the first one gives the place and
the last one the template. Only if no item gives a name at all is there a message. -/

namespace FlowTree

variable {a : Ambient} {node : Node} {c : Context} {items : List Json} {name : String} {status : Nat}

/-! ### Items -/

namespace Walk

end Walk

end FlowTree
