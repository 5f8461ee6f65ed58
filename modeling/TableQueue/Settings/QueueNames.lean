import TableQueue.Text.Blank

/-!
# Lists of queue names

A list of queue names is one text with commas between the names. Blanks around a name do not belong
to it, and a name that is empty without them is passed over.
-/

namespace TableQueue

/-- The queue names in a text, in order and with repetitions. -/
def splitQueueNames (text : String) : List String :=
  (((text.toList.splitOnP (· == ',')).map Text.trim).filter fun name ↦ !name.isEmpty).map
    String.ofList

def joinQueueNames (names : List String) : String :=
  ",".intercalate names

end TableQueue
