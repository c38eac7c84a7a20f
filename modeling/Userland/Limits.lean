/-!
# Sizes shared by the kernel and its programs

The kernel and the programs that run on it agree on a few sizes.  They are
plain numbers: nothing here reserves memory or opens a descriptor.
-/

namespace Userland
namespace Limits

/-- Bytes set aside for the heap of one program. -/
def heapSize : Nat := 0x4000

/-- The most bytes of a text that the kernel reads, its final zero not counted. -/
def maxTextLength : Nat := 256

/-- Descriptors of one process are the numbers below this one. -/
def maxDescriptors : Nat := 16

def pageSize : Nat := 0x1000

/-- Pages of the buffer that the swap tests walk through.  It has to exceed
clearly what the kernel gives one process, so that pages really move. -/
def swapPages : Nat := 64

def wordSize : Nat := 8

def wordsPerPage : Nat := pageSize / wordSize

end Limits
end Userland
