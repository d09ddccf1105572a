/-!
# Bundled templates

The templates and support files that come with the library, line by line. Message and
manager templates hold markers; support files are copied as they are.
-/

namespace PacketSmith.Template.Bundled

/-- Lines put together, each with its end. -/
def text : List String → String
  | [] => ""
  | line :: lines => line ++ "\n" ++ text lines

/-- The template of a Go message file. -/
def goMessage : List String := [
  "\x7b\x7bheader\x7d\x7d",
  "package protocol",
  "",
  "\x7b\x7bclass_note\x7d\x7dtype \x7b\x7bclass_name\x7d\x7d struct \x7b",
  "\t\x7b\x7bfield_definition\x7d\x7d",
  "\x7d",
  "",
  "func (protocol \x7b\x7bclass_name\x7d\x7d) ProtocolId() int16 \x7b",
  "\treturn \x7b\x7bprotocol_id\x7d\x7d",
  "\x7d",
  "",
  "func (protocol \x7b\x7bclass_name\x7d\x7d) write(buffer *ByteBuffer, packet any) \x7b",
  "\tif buffer.WritePacketFlag(packet) \x7b",
  "\t\treturn",
  "\t\x7d",
  "\tvar message = packet.(*\x7b\x7bclass_name\x7d\x7d)",
  "\t\x7b\x7bwrite_object\x7d\x7d",
  "\x7d",
  "",
  "func (protocol \x7b\x7bclass_name\x7d\x7d) read(buffer *ByteBuffer) any \x7b",
  "\tif !buffer.ReadBool() \x7b",
  "\t\treturn nil",
  "\t\x7d",
  "\tvar packet = new(\x7b\x7bclass_name\x7d\x7d)",
  "\t\x7b\x7bread_object\x7d\x7d",
  "\treturn packet",
  "\x7d"]

/-- The template of the Go manager file. -/
def goManager : List String := [
  "\x7b\x7bheader\x7d\x7d",
  "package protocol",
  "",
  "import \"fmt\"",
  "",
  "type IProtocolRegistration interface \x7b",
  "\tProtocolId() int16",
  "\twrite(buffer *ByteBuffer, packet any)",
  "\tread(buffer *ByteBuffer) any",
  "\x7d",
  "",
  "// Protocols maps every protocol id to a registration of its message type.",
  "var Protocols = make(map[int16]IProtocolRegistration)",
  "",
  "func init() \x7b",
  "\t\x7b\x7bregistrations\x7d\x7d",
  "\x7d",
  "",
  "func GetProtocol(protocolId int16) IProtocolRegistration \x7b",
  "\tvar protocol, ok = Protocols[protocolId]",
  "\tif !ok \x7b",
  "\t\tpanic(fmt.Sprintf(\"[protocolId:%d] is not registered\", protocolId))",
  "\t\x7d",
  "\treturn protocol",
  "\x7d",
  "",
  "// Write writes the protocol id followed by the packet.",
  "func Write(buffer *ByteBuffer, packet any) \x7b",
  "\tvar protocolId = packet.(IProtocolRegistration).ProtocolId()",
  "\tbuffer.WriteShort(protocolId)",
  "\tGetProtocol(protocolId).write(buffer, packet)",
  "\x7d",
  "",
  "// Read reads a protocol id and the packet that follows it.",
  "func Read(buffer *ByteBuffer) any \x7b",
  "\tvar protocolId = buffer.ReadShort()",
  "\treturn GetProtocol(protocolId).read(buffer)",
  "\x7d"]

/-- The buffer that generated Go code reads and writes. -/
def goBuffer : List String := [
  "// Code generated by wiregen; DO NOT EDIT.",
  "package protocol",
  "",
  "import (",
  "\t\"math\"",
  "\t\"reflect\"",
  "\t\"unicode/utf8\"",
  ")",
  "",
  "const initSize = 128",
  "",
  "// ByteBuffer is a growable buffer with independent read and write offsets.",
  "//",
  "// Shorts and floating point numbers are big-endian. Ints and longs are",
  "// zigzag varints. Strings and collections are prefixed with their length.",
  "type ByteBuffer struct \x7b",
  "\tbuffer      []byte",
  "\twriteOffset int",
  "\treadOffset  int",
  "\x7d",
  "",
  "func NewByteBuffer() *ByteBuffer \x7b",
  "\treturn &ByteBuffer\x7bbuffer: make([]byte, initSize)\x7d",
  "\x7d",
  "",
  "// NewByteBufferFrom wraps bytes received from the wire.",
  "func NewByteBufferFrom(bytes []byte) *ByteBuffer \x7b",
  "\tvar buffer = make([]byte, len(bytes))",
  "\tcopy(buffer, bytes)",
  "\treturn &ByteBuffer\x7bbuffer: buffer, writeOffset: len(bytes)\x7d",
  "\x7d",
  "",
  "func (b *ByteBuffer) ensureCapacity(minCapacity int) \x7b",
  "\tif minCapacity <= len(b.buffer) \x7b",
  "\t\treturn",
  "\t\x7d",
  "\tvar capacity = len(b.buffer) * 2",
  "\tif capacity < minCapacity \x7b",
  "\t\tcapacity = minCapacity",
  "\t\x7d",
  "\tvar grown = make([]byte, capacity)",
  "\tcopy(grown, b.buffer[:b.writeOffset])",
  "\tb.buffer = grown",
  "\x7d",
  "",
  "func (b *ByteBuffer) GetWriteOffset() int \x7b",
  "\treturn b.writeOffset",
  "\x7d",
  "",
  "func (b *ByteBuffer) GetReadOffset() int \x7b",
  "\treturn b.readOffset",
  "\x7d",
  "",
  "// IsReadable reports whether unread bytes remain.",
  "func (b *ByteBuffer) IsReadable() bool \x7b",
  "\treturn b.writeOffset > b.readOffset",
  "\x7d",
  "",
  "func (b *ByteBuffer) ToBytes() []byte \x7b",
  "\tvar bytes = make([]byte, b.writeOffset)",
  "\tcopy(bytes, b.buffer[:b.writeOffset])",
  "\treturn bytes",
  "\x7d",
  "",
  "func (b *ByteBuffer) WriteBytes(bytes []byte) \x7b",
  "\tb.ensureCapacity(b.writeOffset + len(bytes))",
  "\tcopy(b.buffer[b.writeOffset:], bytes)",
  "\tb.writeOffset += len(bytes)",
  "\x7d",
  "",
  "func (b *ByteBuffer) ReadBytes(length int) []byte \x7b",
  "\tvar bytes = make([]byte, length)",
  "\tcopy(bytes, b.buffer[b.readOffset:b.readOffset+length])",
  "\tb.readOffset += length",
  "\treturn bytes",
  "\x7d",
  "",
  "func (b *ByteBuffer) writeRaw(value byte) \x7b",
  "\tb.ensureCapacity(b.writeOffset + 1)",
  "\tb.buffer[b.writeOffset] = value",
  "\tb.writeOffset++",
  "\x7d",
  "",
  "func (b *ByteBuffer) readRaw() byte \x7b",
  "\tvar value = b.buffer[b.readOffset]",
  "\tb.readOffset++",
  "\treturn value",
  "\x7d",
  "",
  "func (b *ByteBuffer) WriteBool(value bool) \x7b",
  "\tif value \x7b",
  "\t\tb.writeRaw(1)",
  "\t\x7d else \x7b",
  "\t\tb.writeRaw(0)",
  "\t\x7d",
  "\x7d",
  "",
  "func (b *ByteBuffer) ReadBool() bool \x7b",
  "\treturn b.readRaw() == 1",
  "\x7d",
  "",
  "func (b *ByteBuffer) WriteInt8(value int8) \x7b",
  "\tb.writeRaw(byte(value))",
  "\x7d",
  "",
  "func (b *ByteBuffer) ReadInt8() int8 \x7b",
  "\treturn int8(b.readRaw())",
  "\x7d",
  "",
  "func (b *ByteBuffer) WriteShort(value int16) \x7b",
  "\tb.writeRaw(byte(value >> 8))",
  "\tb.writeRaw(byte(value))",
  "\x7d",
  "",
  "func (b *ByteBuffer) ReadShort() int16 \x7b",
  "\tvar high = int16(b.readRaw())",
  "\tvar low = int16(b.readRaw())",
  "\treturn high<<8 | low",
  "\x7d",
  "",
  "func (b *ByteBuffer) writeRawUint32(value uint32) \x7b",
  "\tb.writeRaw(byte(value >> 24))",
  "\tb.writeRaw(byte(value >> 16))",
  "\tb.writeRaw(byte(value >> 8))",
  "\tb.writeRaw(byte(value))",
  "\x7d",
  "",
  "func (b *ByteBuffer) readRawUint32() uint32 \x7b",
  "\tvar value uint32",
  "\tfor i := 0; i < 4; i++ \x7b",
  "\t\tvalue = value<<8 | uint32(b.readRaw())",
  "\t\x7d",
  "\treturn value",
  "\x7d",
  "",
  "func (b *ByteBuffer) writeRawUint64(value uint64) \x7b",
  "\tb.writeRawUint32(uint32(value >> 32))",
  "\tb.writeRawUint32(uint32(value))",
  "\x7d",
  "",
  "func (b *ByteBuffer) readRawUint64() uint64 \x7b",
  "\tvar high = uint64(b.readRawUint32())",
  "\tvar low = uint64(b.readRawUint32())",
  "\treturn high<<32 | low",
  "\x7d",
  "",
  "// WriteInt shares the varint encoding of WriteLong.",
  "func (b *ByteBuffer) WriteInt(value int) \x7b",
  "\tb.WriteLong(int64(value))",
  "\x7d",
  "",
  "func (b *ByteBuffer) ReadInt() int \x7b",
  "\treturn int(b.ReadLong())",
  "\x7d",
  "",
  "func (b *ByteBuffer) WriteLong(value int64) \x7b",
  "\tvar zigzag = uint64((value << 1) ^ (value >> 63))",
  "\tfor zigzag >= 0x80 \x7b",
  "\t\tb.writeRaw(byte(zigzag) | 0x80)",
  "\t\tzigzag >>= 7",
  "\t\x7d",
  "\tb.writeRaw(byte(zigzag))",
  "\x7d",
  "",
  "func (b *ByteBuffer) ReadLong() int64 \x7b",
  "\tvar zigzag uint64",
  "\tvar shift uint",
  "\tfor \x7b",
  "\t\tvar current = b.readRaw()",
  "\t\tzigzag |= uint64(current&0x7F) << shift",
  "\t\tif current&0x80 == 0 \x7b",
  "\t\t\tbreak",
  "\t\t\x7d",
  "\t\tshift += 7",
  "\t\x7d",
  "\treturn int64(zigzag>>1) ^ -int64(zigzag&1)",
  "\x7d",
  "",
  "func (b *ByteBuffer) WriteFloat(value float32) \x7b",
  "\tb.writeRawUint32(math.Float32bits(value))",
  "\x7d",
  "",
  "func (b *ByteBuffer) ReadFloat() float32 \x7b",
  "\treturn math.Float32frombits(b.readRawUint32())",
  "\x7d",
  "",
  "func (b *ByteBuffer) WriteDouble(value float64) \x7b",
  "\tb.writeRawUint64(math.Float64bits(value))",
  "\x7d",
  "",
  "func (b *ByteBuffer) ReadDouble() float64 \x7b",
  "\treturn math.Float64frombits(b.readRawUint64())",
  "\x7d",
  "",
  "func (b *ByteBuffer) WriteString(value string) \x7b",
  "\tb.WriteInt(len(value))",
  "\tb.WriteBytes([]byte(value))",
  "\x7d",
  "",
  "func (b *ByteBuffer) ReadString() string \x7b",
  "\tvar length = b.ReadInt()",
  "\tif length <= 0 \x7b",
  "\t\treturn \"\"",
  "\t\x7d",
  "\treturn string(b.ReadBytes(length))",
  "\x7d",
  "",
  "// WriteChar writes only the first rune of value.",
  "func (b *ByteBuffer) WriteChar(value string) \x7b",
  "\tif value == \"\" \x7b",
  "\t\tb.WriteString(\"\")",
  "\t\treturn",
  "\t\x7d",
  "\tvar r, _ = utf8.DecodeRuneInString(value)",
  "\tb.WriteString(string(r))",
  "\x7d",
  "",
  "func (b *ByteBuffer) ReadChar() string \x7b",
  "\treturn b.ReadString()",
  "\x7d",
  "",
  "// WritePacketFlag writes the presence flag of a nested packet and reports",
  "// whether the packet is absent.",
  "func (b *ByteBuffer) WritePacketFlag(packet any) bool \x7b",
  "\tif packet == nil \x7b",
  "\t\tb.WriteBool(false)",
  "\t\treturn true",
  "\t\x7d",
  "\tvar value = reflect.ValueOf(packet)",
  "\tif value.Kind() == reflect.Pointer && value.IsNil() \x7b",
  "\t\tb.WriteBool(false)",
  "\t\treturn true",
  "\t\x7d",
  "\tb.WriteBool(true)",
  "\treturn false",
  "\x7d",
  "",
  "func (b *ByteBuffer) WritePacket(packet any, protocolId int16) \x7b",
  "\tGetProtocol(protocolId).write(b, packet)",
  "\x7d",
  "",
  "func (b *ByteBuffer) ReadPacket(protocolId int16) any \x7b",
  "\treturn GetProtocol(protocolId).read(b)",
  "\x7d"]

/-- The template of a Python message file. -/
def pythonMessage : List String := [
  "\x7b\x7bheader\x7d\x7d",
  "",
  "",
  "\x7b\x7bclass_note\x7d\x7dclass \x7b\x7bclass_name\x7d\x7d:",
  "",
  "    def __init__(self):",
  "        \x7b\x7bfield_definition\x7d\x7d",
  "",
  "    def protocol_id(self):",
  "        return \x7b\x7bprotocol_id\x7d\x7d",
  "",
  "    @classmethod",
  "    def write(cls, buffer, message):",
  "        if buffer.write_packet_flag(message):",
  "            return",
  "        \x7b\x7bwrite_object\x7d\x7d",
  "",
  "    @classmethod",
  "    def read(cls, buffer):",
  "        if not buffer.read_bool():",
  "            return None",
  "        packet = cls()",
  "        \x7b\x7bread_object\x7d\x7d",
  "        return packet"]

/-- The template of the Python manager file. -/
def pythonManager : List String := [
  "\x7b\x7bheader\x7d\x7d",
  "from importlib import import_module",
  "",
  "# protocol id -> message class",
  "protocols = \x7b\x7d",
  "",
  "\x7b\x7bregistrations\x7d\x7d",
  "",
  "",
  "def get_protocol(protocol_id):",
  "    protocol = protocols.get(protocol_id)",
  "    if protocol is None:",
  "        raise KeyError(f\"[protocol_id:\x7bprotocol_id\x7d] is not registered\")",
  "    return protocol",
  "",
  "",
  "def write(buffer, packet):",
  "    \"\"\"Write the protocol id followed by the packet.\"\"\"",
  "    protocol_id = packet.protocol_id()",
  "    buffer.write_short(protocol_id)",
  "    get_protocol(protocol_id).write(buffer, packet)",
  "",
  "",
  "def read(buffer):",
  "    \"\"\"Read a protocol id and the packet that follows it.\"\"\"",
  "    protocol_id = buffer.read_short()",
  "    return get_protocol(protocol_id).read(buffer)"]

/-- The buffer that generated Python code reads and writes. -/
def pythonBuffer : List String := [
  "# Code generated by wiregen; DO NOT EDIT.",
  "import struct",
  "",
  "_U64_MASK = 0xFFFFFFFFFFFFFFFF",
  "",
  "",
  "class ByteBuffer:",
  "    \"\"\"Growable buffer with independent read and write offsets.",
  "",
  "    Shorts and floating point numbers are big-endian. Ints and longs are",
  "    zigzag varints. Strings and collections are prefixed with their length.",
  "    \"\"\"",
  "",
  "    def __init__(self, data=b\"\"):",
  "        self.buffer = bytearray(data)",
  "        self.read_offset = 0",
  "",
  "    def get_write_offset(self):",
  "        return len(self.buffer)",
  "",
  "    def get_read_offset(self):",
  "        return self.read_offset",
  "",
  "    def is_readable(self):",
  "        return len(self.buffer) > self.read_offset",
  "",
  "    def to_bytes(self):",
  "        return bytes(self.buffer)",
  "",
  "    def write_bytes(self, data):",
  "        self.buffer.extend(data)",
  "",
  "    def read_bytes(self, length):",
  "        end = self.read_offset + length",
  "        if end > len(self.buffer):",
  "            raise IndexError(\"read past the end of the buffer\")",
  "        data = bytes(self.buffer[self.read_offset:end])",
  "        self.read_offset = end",
  "        return data",
  "",
  "    def write_bool(self, value):",
  "        self.buffer.append(1 if value else 0)",
  "",
  "    def read_bool(self):",
  "        return self.read_bytes(1)[0] == 1",
  "",
  "    def write_byte(self, value):",
  "        self.write_bytes(struct.pack(\">b\", value))",
  "",
  "    def read_byte(self):",
  "        return struct.unpack(\">b\", self.read_bytes(1))[0]",
  "",
  "    def write_short(self, value):",
  "        self.write_bytes(struct.pack(\">h\", value))",
  "",
  "    def read_short(self):",
  "        return struct.unpack(\">h\", self.read_bytes(2))[0]",
  "",
  "    def write_int(self, value):",
  "        # Ints share the varint encoding of longs.",
  "        self.write_long(value)",
  "",
  "    def read_int(self):",
  "        return self.read_long()",
  "",
  "    def write_long(self, value):",
  "        zigzag = ((value << 1) ^ (value >> 63)) & _U64_MASK",
  "        while zigzag >= 0x80:",
  "            self.buffer.append((zigzag & 0x7F) | 0x80)",
  "            zigzag >>= 7",
  "        self.buffer.append(zigzag)",
  "",
  "    def read_long(self):",
  "        zigzag = 0",
  "        shift = 0",
  "        while True:",
  "            current = self.read_bytes(1)[0]",
  "            zigzag |= (current & 0x7F) << shift",
  "            if current & 0x80 == 0:",
  "                break",
  "            shift += 7",
  "        return (zigzag >> 1) ^ -(zigzag & 1)",
  "",
  "    def write_float(self, value):",
  "        self.write_bytes(struct.pack(\">f\", value))",
  "",
  "    def read_float(self):",
  "        return struct.unpack(\">f\", self.read_bytes(4))[0]",
  "",
  "    def write_double(self, value):",
  "        self.write_bytes(struct.pack(\">d\", value))",
  "",
  "    def read_double(self):",
  "        return struct.unpack(\">d\", self.read_bytes(8))[0]",
  "",
  "    def write_string(self, value):",
  "        data = (value or \"\").encode(\"utf-8\")",
  "        self.write_int(len(data))",
  "        self.write_bytes(data)",
  "",
  "    def read_string(self):",
  "        length = self.read_int()",
  "        if length <= 0:",
  "            return \"\"",
  "        return self.read_bytes(length).decode(\"utf-8\")",
  "",
  "    def write_char(self, value):",
  "        \"\"\"Write only the first character of value.\"\"\"",
  "        self.write_string(value[:1] if value else \"\")",
  "",
  "    def read_char(self):",
  "        return self.read_string()",
  "",
  "    def write_packet_flag(self, packet):",
  "        \"\"\"Write the presence flag of a nested packet.",
  "",
  "        Returns True when the packet is absent and nothing else follows.",
  "        \"\"\"",
  "        if packet is None:",
  "            self.write_bool(False)",
  "            return True",
  "        self.write_bool(True)",
  "        return False",
  "",
  "    def write_packet(self, packet, protocol_id):",
  "        from . import ProtocolManager",
  "",
  "        ProtocolManager.get_protocol(protocol_id).write(self, packet)",
  "",
  "    def read_packet(self, protocol_id):",
  "        from . import ProtocolManager",
  "",
  "        return ProtocolManager.get_protocol(protocol_id).read(self)"]

/-- The file that makes the Python directory a package. -/
def pythonPackage : List String := [
  "# Code generated by wiregen; DO NOT EDIT."]

/-- The bundled resources with their paths. -/
def resources : List (String × String) := [
  ("go/ProtocolTemplate.go", text goMessage),
  ("go/ProtocolManagerTemplate.go", text goManager),
  ("go/ByteBuffer.go", text goBuffer),
  ("python/ProtocolTemplate.py", text pythonMessage),
  ("python/ProtocolManagerTemplate.py", text pythonManager),
  ("python/ByteBuffer.py", text pythonBuffer),
  ("python/__init__.py", text pythonPackage)]

end PacketSmith.Template.Bundled
