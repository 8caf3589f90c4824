import TableReaders.Storage.Error

/-! A sink: bytes go in until there is no room left. -/

namespace TableReaders.Storage

structure Sink where
  room : Nat
  held : ByteArray := .empty

def Sink.write (sink : Sink) (bytes : ByteArray) : Attempt Sink where
  store :=
    { room := sink.room - bytes.size
      held := sink.held ++ bytes.extract 0 sink.room }
  failure := if bytes.size ≤ sink.room then none else some .full

end TableReaders.Storage
