/-! # The program

How the program names itself to people and to servers.
-/

namespace RangeCatalog

def programName : String := "rangewarden"

def programVersion : String := "0.1.0"

end RangeCatalog
