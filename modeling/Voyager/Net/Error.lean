/-! The errors of the network layer. -/

namespace Voyager.Net

inductive NetError where
  | connectionFailed (text : String)
  | authenticationFailed (text : String)
  | poolExhausted (text : String)
  | timeout (text : String)
  | protocolError (text : String)
  | tlsError (text : String)
  | closed (text : String)
  | invalidUri (text : String)
  | transactionError (text : String)
  | executionError (text : String)
  | ioError (text : String)
  | coreError (text : String)
  | arrowError (text : String)
deriving DecidableEq, Repr

end Voyager.Net
