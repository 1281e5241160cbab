import CInspect.Text.Packed
/-!
The internal headers that the library headers share: word sizes, type definitions, byte order, floating-point settings and the like.

Each entry is the full path of a header and its text, reduced to the
declarations and macros that programs can see.
-/

namespace CInspect.Includes

/-- The internal headers that the library headers share. -/
def internalHeaders : List (String × String) := Text.unpackEntries <|
  String.join [
    "/usr/include/asm-generic/errno-base.h``#ifndef _ASM_GENERIC_ERRNO_BASE_H`#define~;!F~(!G\tEPERM\t\t 1~*!5NOENT\t\t 2~*!6SRCH\t\t 3~*!5INTR\t\t 4~+!5O\t\t 5~+!nX",
    "~%!56~*!52BIG\t\t 7~-%:XEC\t\t 8~*!7BADF\t\t 9~*!5CHILD\t\t10~*!6AGAIN\t\t1~-&2MEM\t\t1~+&2ACCES\t\t1~+&3FAULT\t\t1~+&4NOTBLK\t\t1~+&8BUSY\t\t1~+&8EXIST\t\t1~+&",
    "9XDEV\t\t1~+&7NO~&!69~-%-DIR\t\t2~+&9IS~&!6~+&9INVAL\t\t2~+&9NFILE\t\t2~+&9M~'!6~.&9TY\t\t2~+&8TXTBSY\t\t2~+&:F~%(P2~-(PSPC\t\t2~+&:SPIPE\t\t2~+&:ROFS\t\t3~+&8M",
    "LINK\t\t3~+&8~&![3~+&7DOM\t\t3~+&5RANGE\t\t34``#endif`\x00~>,v~?,q~=,lH``#~'%( <~8.!>~+-4DEADLK\t\t3~,,DAMETOOLONG\t3~+'uNOLCK\t\t37`~(!!~,(&YS\t\t38~-!7TEMPTY\t",
    "3~+()LOOP\t\t4~+()WOULDBLOCK~',d~-,_SG\t\t4~+(2IDRM\t\t4~+(3CHRNG\t\t4~+*FL2NSYNC\t4~+&QL3HLT\t\t4~+&LL3RST\t\t4~+*GLN~&!t~+*GUNATCH\t\t4~-,bCSI\t\t5~+&CL2~%%/5",
    "1~-/XE\t\t52~-!5R\t\t5~+&9XFULL\t\t5~-,]ANO\t\t55~.!]QC\t\t56~-!7S~%%B7~0)O~%'v~&)Y~+!>BFONT\t\t5~-&CSTR\t\t60~-/PATA\t\t6~+&DTIME\t\t6~,/(OSR\t\t6~+&DNONET\t\t",
    "6~-&DPKG\t\t6~+&DREMOTE\t\t6~.+-~%.26~+([ADV\t\t6~,/'RMNT\t\t6~,3TOMM\t\t7~+&7PROTO\t\t7~+&6MULTIHOP\t7~-/*TDOT\t\t73~-'y~%+D7~+&<OVERFLOW\t7~,-MOTUNIQ\t7~.(bFD",
    "\t\t77~-&iCHG\t\t7~+&ALIBACC\t\t7~,-?IBBAD\t\t8~,*zIBSCN\t\t81~-!7MAX\t\t82~-!7~%7,8~,81LSEQ\t\t8~+&CRESTART\t8~+&BSTR~%2G8~+&BUSERS\t\t8~-3eTSOCK\t8~+&BDESTADD",
    "RREQ\t8~+&FMSGSIZE\t9~0(iTYPE\t9~-8D~%!;OPT\t92~/!QNOSUPPORT\t9~+&RSOCKT~+!>~,)!PNOTSUPP\t9~+&]PF~+!R~+&cA~,!;~-+IDRINUSE\t98~.!9NOTAVAIL\t9~,-lETDOWN\t10~,-nET",
    "UNREACH\t10~,&nETRESET\t10~+&mCONNABORTED\t103~.!<~(!T~-.)BUFS\t\t10~+&fISCONN\t\t10~-.,T~%!910~+&_SHU~(&.~+&_TOOMANYREFS\t109~.0&DOUT\t1~,=o~&%nFUSED\t1~,=uHOS",
    "~'%-~,=xHOS~*'9~,>&ALREADY\t1~,>(INPROGRESS\t1~,>,STALE\t\t1~,>.UCLEA~%?N~.,0NAM\t\t1~->3~&)<\t1~,>5IS~&!M~,>5~&2&IO\t1~,>8DQUOT\t\t122~-8pMEDIUM\t1~->=~%!7~%,t",
    "1~,>CCANCELED\t1~,>FNOKEY\t\t1~,>FKEYEXPIR~%!P7~-!;REVOK~%!;8~/!;JEC~%*r29~,;'OWNERDEAD\t1~,>aNOTRECOVERABLE\t131~)!X ERFKILL\t\t13~*&l EHWPOISON\t133~7>alinux~",
    ")>X~-=s~(!9>~5!Wlimits~-?7LINUX_LIMITS~,?2~/!;~)!<NR_OPEN\t ~'!!1024~+!BGROUPS_MAX    655~*>o ARG~(!<   1310~*6d LINK~+!B  ~+(i MAX_CANON~(!A2~*;E~%!AINPUT~4!AN",
    "AME~-%&~,!APATH~,!A40~*2G PIPE_BUF~5!AXATTR_~+%,~,%&~&!ASIZ~&!A~.',~&!ALIST~+!A~)!BRTSI~%'M\t  ~%*B~4**x86_64-~%)S-gnu/~+)|~<E1~2*B~1!qbits/atomic_wide_counter.",
    "h~)E&~*!!~)*sBITS_ATOMIC_WIDE_COUNTER~,+'~;!H````typedef union`@`  __extension__ unsigned long~&!(int __value64;`  struct`  @`   ~*!W~&!Mlow;~4!;high;`  $~(!t32",
    ";`$ __~3'.;~I(i~%'sbyteswap~8'h !~&'Ed _BYTESWAP_H &&~+!;NETINET_IN~0!=ENDIAN_H`# error \"Never use <~/%O> directly; ~)*K~,!Cinstead.\"~(&[~/)]~*%r~/)Q~+&31~,Le",
    "features.h>~+!9~%%jtyp~&!;~*-%__bswap_constant_16(x)\t\t\t\t\t\\`  ((__uint16_t) ((((x) >> 8) & 0xff) | ~&!9~(!3<< 8)))``static __inl~&%:~(!q`~(%F16 ~+%0~%%_x)`",
    "@~%(y__GNUC_PREREQ (4, 8)`  return __builtin~&!q~&!pbsx);`#else~-!N~0&a~,!P~%(H$~<'932~.'9~+&m0~%!!u~%':24~.'300~&!D~&!B8)~%!e~/!F~&!Hu~''_~1!A00ff~&!A24~:(%32~",
    "+(%32~((%32~C(%3~:(%~&!p~G(%~.!P~C(%64~&(%~7'|~(!!ull~%'g56~5'h~.!S~(!Q40~;(=~0!Q24~7!Q~,!S~(!Q~8)C~,!R~%!P~%)M~:!P~)*E~'!P~;%U~*!S~(!Q~9&[~,!S~(!Q56))``~.5a~6*",
    "s64~+*s64~(*s64~a*s~&!p~G*s~.!P~(*s~L6.dirent~46,~)44DIRENT~<5I~(!l~55G~*!A~25E~&9A~%!Zn~&9H~)%F_USE_FILE_OFFSET64~%9L__ino_t d_ino~&9b__off~%!6off~*'[~'!P~%(d~",
    "0!R~'!8~'!T~%%]~-:Ushort~%:[d_reclen~/:ychar d_type~&!=~'!4name[256]~%;8;~%'q~*&KLARGEFILE64~.&z~%&Y@~L&0~z&)~):7~'1fd_fileno\t~%%[``#u~%(s~**>AVE_D_NAMLE~)c_~0",
    "!BREC~;!BOFF~8!>TYPE~&=j~)=3_OFF_T_MATCHES_OFF64_T &&~+!GINO~+!GINO64_T``# ~/%5~(!F~&!264\t1~'*j~C!N0~M.=endian~DE3~*?l~->N~(!: 1`~1i%__LITTLE~'!I\t123~*Pc__BIG",
    "~(!=43~+Ql__PDP~(!=3412``~0?<~&&1nes~'?B~+.xFLOAT_WORD_ORDER~+'Y~1!? _~%Ai~(!M~*BL~-!< == ~/&G~,%!LONG~&!(PAIR(HI, LO) LO, HI`#el~5!v~*'!~D!s~&!+~*%t~Q)b~&'Q~5)",
    "QNESS~7)U~&!>~&E,~6*5~84V~-(v~44Z~(+N~44Z~+=S~+'_~0(U~N',~(ru~A,j~0s'~,!9~''/~,J2~(!S~.'.~/,-~'P1~+'-~%'P~)!;~3J+~*!j~-WV~%I6 ~'&-~%gSUP`# ~(*m~'!5\t~+ev`# ~*!|",
    "~'!]~([:~,!a~)[O~&[P~2!Y~)ZO~,!Z~*Zg~&Zh ~/LD~/Zq~/&&~0[3~3%F~&[<~,!]~,[O~3!U~([X~,!W~)[o~%[p~*!Y~K*nfcntl~&!8~<*t\t_FCNTL~<-H~-!q~5-I~%!F~7-H~0%E~*;RGNU~,*e~*O",
    "w/~&;c_iovec~%PE~0.AO_ACCMODE\t   00~*jE O_RDONLY~&_b~*kQ O_WR~+!<1~-!VWR\t~'!;2~)*4O_CREAT~*2x~'!4~%%C~%lW~&%i~*!TEXCL~,!SEXCL~%%'02~4!SNOCTTY~,!U~&!5~%!V4~4!V",
    "TRUNC~,!U~%!4\t~&%c~3!TAPPEND~,!U~&!5\t~&%f~5%gNBLOCK~.%i~&!7\t~&%j~4!ZDELA~.&F~%!5\t~,!x~0!YSY~.&HSY~%&G~&([4~%&N~*%:~)!JF~%!K\t~(!f~*&j~0!v~%!4\t~&&g~1&.__O~*",
    "D0~,8b~+!:\t~&%S0~2Xy_O~%>SCTORY~.!d~)!:\t~&%H~5%INOFOLLOW~.!b~(!9\t~%(7~6!aCLOEXEC~.!_~'!8~'+>~8!b~&%m~4&)\t~&)V~7&&ATIM~/'J~'!8~'-6~8!bPATH~.!]PATH~'.Y0~;&!~.",
    ")I~)!6\t ~/*>~+!XTMP~2)I~'!8   (~('A0 |~.)&)~1)_F_GETLK~%5.~+9y~2M= && __TIMESIZE != 64~+5R~'!o\t5~-!7S~%!76~2!7W\t7`# ~'G&~0!k~'!+~/%/~&!s~'!+~4!?W~(!AW~%!B~''",
    "b~.'i~,%*~.%F64\t12~,!9~'%7\t13~1!9W64\t14~46/~36,~)!bOFD~'&_36~0!;~&&Y37~5!;W\t38~,)8~6Ol~+0?~)!:~00,~4!kXOPEN2K8~,!h~*/c~700~+/H~6/n~)//\t~-/Q~4%Q~-'O~)/-~4/M",
    "~).k\t~5/4~&.O\t\t~2.n~)-N\t~--r~*)?~.P)USE_POSIX199309 ||~/!AUNIX9~.'Z~%/;~,/Y~.Q'_R~'!:~*!WR~)!W~(!?~/-?~(!G~)6|~-,W~*<eF_DUPFD\t\t~*<B~%,YFD\t\t~*<;~%,?FD\t\t",
    "2~/!JL\t\t3~/!JL\t\t4~-Nb_SETOW~-La~(!7\t8~.!9G~&!99~-NZ~4'j~2(*~2+f~)%4~4%T~)%;~*%G~38Q~%!]SIG~1&7SIG\t10~1&8~%!:1~24[~(%P_EX~4'._EX\t15~4'2~%!=6~D-+~)%i~4&0~)",
    "%o~*%z~2'O_EX\t~7&%~,%a~-%o~I%lLEASE\t102~13w~(!<~+'%F_NOTIFY\t1026~/!pPIPE_SZ\t10~%JQ~,!r~+!>~-4sADD_SEALS\t1033~/!Y~*!=4`~0!>RW_HINT\t1035~/%W~,!?6~0!]~%9:~+!",
    "E7~0!d~0!E8~+*_~<4?~'/3~)>e1030`~3/[~)!F\t~+U=F_RDLCK~-&e~%!5~%0.~*!7WR~%!7~-(1UN~%!72~+3-~*%&EXL~,FT~'!4\t\t~-)nSH~%!7~77vMISC~+%lLOCK_SH~,%T~%!6EX\t2~/!6NB\t4",
    "~0!aUN~8%7~-+t~%!PMAND\t3~0%%READ\t~,9W~%!9WRITE^&%43~.!RW\t192~:%B~*!SDN_ACCESS\t~)q-1~-!BMODIFY~*!B2~-!B~%MWE~*!B4~-!BDELE~,!B8~-!BRENAM~*!B~,2HDN_ATTRIB~)!B2",
    "~.!BMULTISHOT\t0x8~/E2~4&oenum __pi~&jr~)l.F_~%Vd_TID = 0,~-!8PID~/!4GRP~.!5G~%!]~,!D~'mh~(mMf_owner_ex~)%D~/%] ~*lX~'!8 pid~0lS~:)BF~%0h~%!(~&'V1~2!?HRINK~&!B2",
    "~1!BGROW~&!?4~1!?~&+8~%!A8~1!AFUTURE~+!H10~2%k~%0(0x~&)B~C&JRWH~&!x_LIFE_NOT_SET~,0DRWF~4!F~6!_~;%(NE~,/V~/!CSHORT~,/f~/!D^'%A/3~9!ELONG~,1P~/!CEXTREME\t5~.2L~%",
    "[=~*1c~*'w~'U_~2U|F~)SaF~.N)FA~(!<~/SkF~)Ux~4V?F~*Ub~'V%~1=u~%DC_FADV_DONTNE~-dL~5!D\t4~8!FNOREUS~,'0~47Z~*%s~.!bMAL~,*G~+!ARANDOM~,)e~+!ASEQUENTIAL~,)f~+!EWILL",
    "~%&33~5!C~)&S~8'4~5&(~%&g~4'!~<2E~)!sSYNC~';>ANGE_WAIT_BEFORE\t1`~<!M~%/&\t2`~A!tAFTER\t4~&JA~=!u_AND~%!X\t(~7%=\\`\t\t\t\t\t |~=&3~?!J~%%d)~-%aPLICE_F_MOVE~-<V",
    "~)!=~),e2~7!_RE~-<M~)!=GIFT\t\t8~&'%~/n8falloc~'w.~(5mile_handle`@`^/%?K~&!;_bytes;` ~,!7~&6*`^0%&|f~'!s[0];`~%7)~)%vMAX_HANDL~&DE2~;=:~,![AT~(!ZFID\t\tAT_REMOV",
    "EDIR~&)g~'!l__BEGIN_DECLS~5!|extern __ssize_t readahead (^&%C<fd,^+%*-~%!-set, ~'!T_^&%C8)~'9%THROW;~'Vw~'%,int sync_~%(+range~A%,~,!7~%%/,`\t~&k0^/%E2flags)~/%",
    "A~*&Jvmsplic~+%?out, const^'%FQ ~%mM *__iov~(%6~.&Y,~=%F~1%E~0%Cin~,&M*~%!.in, ~,%f~%%H~0!I~%&'~)%[len~&!K~N%_te~/%Z~-'0~0%,~&jd~<%0~)tR~3cB~,)t~&.3at~-)n~&!-mo",
    "de~''9~2)x~(%a);~+Vz~(,;RE~'Z(~+%8~*!9 (~)%E,~=%F~.+E~%25^-%2v~&%Q~*'7~*&I64~%%k~)%l~(.p~*&m~+!O~%!M~&Mr~)!+~8b/~4'e64~P&B~0&=;~*y/~-.lname_to~'1z_at~(%7dfd~(-M",
    "~%2F*__name~).Y^(%P<~,3Z *_~'!-~&%w*__mnt_id~+!Z~,*w~/0Y~+%jopen_by~2%jmountdirfd,~>%Q~6%B;~,3IEND~'3G^J%!?^>%+2^G%!9^S%!3~)5<~&%m__~9tB~;!W~4kh5~4kg6~5kf7~*>]~",
    "((Llock~)LH^*%<?l^+%;|~,!9whence;^D%AN~&0/l_start;~/!8len^.%AP~(,p~2!T~'!:~'!V^)%AR~(N0l_~*N2^B%?k~%&m^+%?j~K&o~M%y~8%r~+D3^-%*&^.%+>~G,Lenv^=%GfFENV~=,I~%!h~6,",
    "H~'!>^4%,Wenum~*TJE_INVALID =~*]X~)!8\t0x01~%!M~,!O~&TM__FE_DENORM = 0x02~'ThE_DIVBYZERO~.%!~)!:\t0x04~*%&~)!;~)!h^(%|.~.!g~(!9\t0x08~*!f~(!:~)!eUND~4!f~)!:\t0x",
    "10~*!g~)!;~)!hINEXACT~0':~%!8\t0x2~+!d~'!9~(,A~*!SALL_EXCEPT \\`\t(~+%%|~.'K|~.&.|~-''|~+(K)`~4)>TONEARES~/&)~)!:\t~+&(~)!8~*))OWNWAR~/*)~(!9\t0x40~+!g~(!;~*(=P",
    "~2!d~&!7~&]B~+(8P~-!_TOWARD~2*O~*!;\t0xc~,!h~*!=~([c^+%iB^1%LPfexcept_t~(E*~(!P^8%i1~*!b__control_word;~:!Kglibc_reserved1~;!Nstatus~O!w2~;!Ntags~J!p3^5%k]eip~;",
    "!ics_selector~5!eopcode:11~5!B~.%P4:5~5!Jdata~'?u~;%Z~%!J~7%]~:&s5;~3:h~3%Tmxcsr~+8'$`fenv~&*e~,-?FL_ENV\t((~&B(~&!I *) -1)~>eOE_NOMASK~8!g2)^/%L_GLIBC_USE (IEC",
    "_60559_BFP_EXT_C2X)~|,P~,'j;~;'T~&'Mmode~''O ~.'PMODE~+&h~&!M~&'SL)^M%CPlibc-header-~%;C~5C?~19y~''lINTERNAL_STARTING_HEADER_IMPLEMENTATION^>%JJ~3%S~*:[~,Cgu~V%",
    "L^7%rJ`~1!x~%?SIB_EXT2~%*S(^.%(>GNU~%[G^&%k2   ||~,!GSTDC_WANT~)!l__^&%6=~5!=> 0))~,F)~2%U ^2%Y.~4!J0^7%GF~))4~2&f~1,|^3%+JGNU^.%+G~*&C~2-f_~6%w~1!M~>&O~2!S~)&X",
    "~E&A_C2X~D/k) ||~/!GSO~%0'~G%h_C2X~P&D~%!W~G&H~((d~D&?~>(r~F(n~L(j~-(f~C+0FUNCS~_+2~)!h~C&B~)!O~I&H~*!U~G(l~*%]~?+:~)!M~Z+<~-%:~R&L~.+A~A(|TYPE~a(|~)!h~C(|~)!O~",
    "I&P~*!U^N%jwlocal_lim~:8_~(8Z^'&9S~,%Y~%'V_~)!<^.%8h^(&9*~2!U~*!=~.!VOPEN~6!V~*!=~.!V^'&:X~2!U~)!<~2S'^.&<k>~,uT~/&L u~/&x~(*J~5&w~0!n~+''u~0'8~.!p~0'7~0!q~+'?u",
    "~0'Q~.!q~0'P~0!q~*'Xu~/'k~.!o~2'j~((3~&yLTHREAD_KEYS_MAX~%rq~)!HP~1!B024~9!kDESTRUCTOR_ITER~%=yS\t4~2!v~6!M~D!t~9%K~&!*~&%w64~)01P~2!C`~+!kAIO_PRIO_DELTA~%!d20~",
    "2Z=pthread_stack_min-dynamic^.&6QDELAYTIMER~&!q147483647~+!HTTY^)&B!\t\t32~+!>LOGIN~+!A256~+!BHOST~+!A6~,(ZMQ~&&B~'!|768~+!ASEM_VALU^(&CD(~*%k)~K17e^D&<WLOCALE^",
    "0&<:LANGINFO~<_.~(%2~5_0~*!A^A&<8~(%Q^/%pv~(!:\t^+&Kz__LC_CTYPE\t\t 0~.!:NUMERIC^,&q(~&!<^&&aV^*&q+~'!mOLLATE^,&q2~&!<MONETARY^,&q:~'!=ESSAGES^,&qE~&!=ALL^,&qH~",
    "&!8PAPER^,&qM~'%|A~%%b8~/!iDDRESS^,&qV~'&9ELEPHONE^,&qa~(%cASUR~%J:^+&qj~&!?IDENTIFIC~%.a\t12^N%oB~;-n~;83~(/>STACK_MIN^0%S.USE_DYNAMIC~'!ISIZE~&Jx~6!?~&x7~'3RA",
    "SSEMBLER~%;V^+%3wSC_~0%K~&-p 75^/%)K~'sN^+&I,sysconf~(sKname~+t.~,rg~+%D~1&j~,!p~;%d)~-xO~(zt~>2C.h>^0%V(~V)D~6=Q#~8&N\t16384~M%:types-arch~=mB~%/i~'%>~&A(ARCH~",
    "103~3!F\t1~15xwordsiz^'&t0~3um~%FLWORD~%+C=^/%gL_~%+=OF~(%=_MUTEX_T 40~<!JATTR_T 56~<!IRWLOCK~B!KBARRIER_T ^&%|3^.%]8~9%t~%!Q~A%t~>!I~)%t44~G%t20~++d~/Ff~7%z^,%",
    "V[~9%y6~;!H~)%x^,%O[~?%w^.%uB~6%o~'%L4~:!KCOND_T 48~>!G~C!p~&&>~'!L~;!u~'&A~)!x~,5eOCK_ALIGNMENT~+!<ONCE~+!<~+ae^3%&G__cleanup_fct_attribute _~*!/__ ((__regparm",
    "__ (1)))^U&4F~,0I^D&1D~-/zCOMMO^&&4-~:0H~(!I^&%C6~.0K~&%L-shared-^+&Ur~2qO~)6G~(3l~'qN^2&]Bchar __size[~<+,]^(%?%__align;`$~)%,mutexattr~X%6~*+J~<%5cond~+%4~1&s",
    "~,&nkey~/!K~&%!~.+1~)!Sonc~'jc~%&-~)!;~&%>~C&<~+&8~+:t~(&=^,%,whave_~/%.~-'V~/%L~/!2;~,-'~3!s 1~*Md~2(Y~&nu __~-)8_s~'rY;~F*:~:&g~.*;~&'|~D%Ucond~K%T~&2M~%%S^.&",
    "Rz^0&gT~5*o~'pM^Q%pa~G&Erwlock_arch_t~I&L~(6G~B((~'%-t;~R.:~,5:~H%6~)+F^5%Qh~)'=~(%Yvolatile~-.cspin~)&.~S0I~)9=~B&.barrier~U'C~-81~<1_~'%3~0'?~L6z^&%!q~=D<SYS_",
    "SELEC^=&XJ~(!p~5QVsy~,!E^5&=H~*:TFD_ZERO(s) \\`  do @~'u<^(%A,\\~4z[i;~3!Hfd_set *__arr = (s);~3!Jor (__i = 0; __i < sizeof (~&!i) /~)!5__fd_mask); ++__i)~-!t ~",
    "%&>S~%:1 (~%%I)[__i]~%%-~/%L$ while (0)~.')SET(d, ~''+((void) (~,%*s)[~%!OELT(d)] |=~&!bMASK(d~%=:~,!yCLR~Q!y&= ~~~<!zIS~0%z~7!u ~&!v~*%s (d)) != 0~GYzsetjmp~D>",
    "|SETJM^2&s_~(!: ^2&MG~)!>~-ZU~(.j^?&Mb~(%k^1&Mc~*!<~4ZT~=M]^)'Fx`~7MX~(1-~+1ajmp_buf[8]^&%QG~+72~,ED~.8/~-!o~;!tse~/>L~(!E6];^1&L%~N1_igactio^E&[kSIGACTIO^2&[n~",
    "+!=^-&V8SIGNAL~B)B~*%T~2)Eigna^8&Lf~':U~)!g`  @^R&4O~%8H_EXTENDED~'2f~&!t  ~%!x\t__sig^&%PDr_t sa^'%PQr;``\tvoid (*sa_~)%X)~%Yv, siginfo_t *, ~%!L*);~'%'$^'%EU~",
    ")!Y~*!|~)Bm~*%8\t~3!M.~*!C~-!W~)!M~8!Y~*'X^,%M.~9&b~)(C~)!Lset~&!Hmask;~'!=in~%!6flags~(!7~*'Drestorer) ~&3-^(%Mb~(*x\tSA_NOCLDSTOP ~+gM~(!;WAIT ~+gOSA_SI~%j0  ",
    " ~%PG~1)z~.)Z~2*%^.%uBSA_ON~%]'   0x08^1&GO~P%.^2&.|SA_^''G1~%%2^*&Ha~+!ENODEFER~%!E4~(!E~0!jETHAND ^2&(=^2&-e~,!aINTERRUPT 0x2~)%+~/%O~%6X  ~+%]~/'LESHOT~&!E~)",
    "%[~-!G~('p ~+('~1vj\tSIG_BLO~'!N0~-!;UN~(!=1~-!;SET~'%r2~Q2ucontext~CcwSIGCONTEXT~42v~)!>~48[~'3%~.8[SYS_U~+!y~9Ba~+%w~6Be~;3C^9'1a~(&<FP_XSTATE_MAGIC1\t0x46505",
    "853U~8!I2~)!I45~:!I~%G5\t~(B9~0!B)~)55_fpx_sw^&%tF^''9;^)'-pmagic1;~.!8~%9lded~%HK~*!?64_t xstate_bv~/!X~'!;~.!V^''/'^/%Lx[7^'%uH~*%treg^.%vV^&%E3significand[4~",
    "%Id~/!Eexponent~0!wx~f!x~1!>~2&D3~/&Dxmm~(%H~*''\telement~%%?~%4a~5bZ~*&7~%'t`@`~.!mcw~.(*\t\ts~1!5tag~0!6ip^''%R~,!8cssel~0!8data~3!Pdata~'!R~-).\t_st~%?q~2(7t",
    "atus~3!<~%+D~&85~,%1_fxsr_env~%AH~.!?^)%Jk~-!U^4%T%~.*'~'%!~)%v~.(y\t_xmm~'!=~<%(2[56~')4~()2~*0d_~&!|~&2U~)<J~0!C~+!5^1')0X86_FXSR~&/9\t^'&<!~,AR~(!a~3,Ngs, __",
    "gsh~3(<f~%!?f~5!?e~%!?e~5!?d~%!?d~/!?~%Fqedi~3!8s~4!8bp~4!N~4!8bx~4%8~4!8c~4!8a~3!8trap^&'.g~/!Qrr~3!8ip~3'-c~%'-c~5'-~'AY~3&[_at_~&6h~4-C~%!zs~&!z~//u * ~'!-~2",
    "%'old~&C5~0!<cr2~'+s~%DA~<0u16~%0&wd;~/!6s~2!6ftw~1!6op~.6=\t\tri~2!6dp~F/Cmxcr~'Ed~2/:~=/516~B/61[24~.4y~/-v~+8[r8~/8or9~0!410~1!51~1!52~1!53~1!54~1!55~0!5~&.9",
    "~,!5s~1!5bp~1!5x~1!o~1!5a~1!5c~1!5s~1%)~0)e~4-)~(-a~3!8~5!Nf~4!8__pad~0(<~'/4~+!5~*/b~+!8~+-N~+!9~%-K^2'UD~(Pd@`^-&(p~6.e~&Mx^+'Cm~'!?^+%bV$~/%G_~*+b ~%,K$^+&'r",
    "~),Usave_hdr~0+j~3AJ~'%%~1,j]~?!G2[5~/>2ymmh_~(0L~-B:~&!=pace[6~/-n_x~*!V~0'T~+'R~1&V~(&Ghdr~,!D~*%T~%%E~-'G~HJIevent-consts~GYIEVENT_CONSTS~4JT~.!D~IJXAIO_H`#~",
    "'JNDon't~2Yo~.&(~OYuenum~%(L~%%v~'%V^&&TL~*OJ~+!>\t~,!0~)![NONE~1!UNONE\t~*!.~)!Q~&di~1!S~&!:\t~,!0`~/!X_ID =^,%,9~/!A\t~/!3~T*!info^)%7H~1)hINFO^6%72~.!A~()b~*",
    "V;~(H!^&%>%~,f432~'+*~(ds__c~&tp^3%-h~%ryed__ (4)))~&Zmchld~(!X^-%%fSI^+%(1~=!t8)^.%iJSI_C~&y)~2%2~XfN~%(-~M.-~%'|~:.,~-!C~7f_~>-k~-%e~O-j~0TD~.*i>~+N%SI^&&UqIO",
    "^&&M_~%&6O~0)%~2!F^,%*k~,/-~&!PNL = -60,~&!7DE~&,| = -7,~&-j_TKILL~'!E~%!z,^'%cr~7%f~*%-IO~'![MESGQ~'!/TIMER,~)eq~6!B~.!k^)%yrSI_QUEUE~'!EUS~)!PKERNE~%1Qx80~,/d",
    "~(&g\t~*!.~,!B~(&q\t~+!/~,!D~%'!\t~(!,~,!=~%&l\t~(!,~1%B~&!?~'!.~,!B~%&m\t~(!,~-%;IMER\t~(!,~K!y~%':\t~(!,~,!=USER\t\t~'!,~,!<~&'W\t~)!-^(&Qj~[g/~*+3ILL_ILLOPC ",
    "= 1,^+%BP~*!=\t~*!.~,!VN~5!RN~*!RN~*!RADR~3!RADR\t~*!.~*!RTRP~3!RTRP\t~*!.~'!RPRVOPC~0!R~&!9\t~*!.~*!RREG~3!RREG\t~*!.~'!RCOPRO~1%+~&!9\t~*!.~'!RBADSTK~0!R~&!9\t",
    "~*!.~*!RIADDR~2!S~%!:~.!H~%)s~))2FPE_INTDIV~0)2~*!=\t~*!.~*!VOVF~3!ROVF\t~*!.~'!RFLTDIV~0!R~&!9\t~*!.~*!R~3%+~&!9\t~*!.~*!RUND~3!RUND\t~*!.~*!RRES~3!RRES\t~*!.~",
    "*!RIN~4&3IN~)&3IN~+&3SUB~3!RSUB\t~*!.~,&3K = 14~5&8K~*&8K~'!WCONDTRAP~/!S~(!:\t~-!H~.)iSEGV_MAPERR~0)j~+!>\t~+!/~(!YACCERR~1!U~&!:\t~+!/~(!UBND~4!U~&!:\t~+!/~(!",
    "UPKU~4!U~&!:\t~+!/~+%fADI~4%fADI\t~+!/~)!UDI~5%g~'!;\t~,!0~+!XP~7!XP~,!X~,'TMTEA~4!X~'!;\t~,!0~+!XSERR~3!WS~,!W~%!H~.)TBUS_ADRALN~0)S~*!=\t~*!.~*!V~/%v~*!9\t~*!",
    ".~'!ROBJ~3!R~&!9\t~*!.~'!RMCEERR_A~1!U~)!<\t~-!1~/![O~7!ZO~-!ZO`$;^.'VN^/%>g~)8G~+'TTRAP_BRKPT~0'T~*!=\t~*!.~(!VTRACE~1!R~%!9\t~*!.~*%/ANCH~3%,ANCH\t~+!/~(!UHWB",
    "KPT~1!U~&!:\t~+!/~(!UUNK~0!QUNK\t~)!?~0'B~f;mCLD_EXITED~0'd~*!=\t~*!.~'!VKILLED~0!R~&!9\t~*!.~'!RDUMP~2!R~&!9\t~*!.~'!RTRAP~3!S~'!:\t~+!/~'!USTO~4!U~'!:\t~+!/~'",
    "!UCONTINU^-&zY~-!;\t~.!J~..vPOLL_I~1.s~'!:\t~'!+~(!MOUT~1!JOUT\t~(!,~(!LMSG~1!LMSG\t~(!,~(!L~//5~(!7\t~(!,~(!LPRI~1!LPRI\t~(!,~(!LH^-'ft~(!6\t~)!?~,+J^D'aG~.M6~",
    "*LD~VOnnum^9%jD~2OkNUM~9T/~*!?~>Oe^7%9F~*%Y~POb~,WBSTKFLT^+(i: SIGPWR\t\t30~.!NBUS^-%v<SIG^&(c61~.!LURG^,(hZ~&%4OP^,(ij SIGTSTP^,(ij ^'%-b^,(jN~%!7HLD^,(jw~%!cT",
    "IN^,(j;~&!7OU^,(j<~%&DOLL^,(hw SIGXFSZ^,(j+~%!7CPU^,(jS SIGVTALRM^+(jA~%!xROF^,(jC~%&oSR1^-%xg~&!72\t\t12~/(AWINCH\t28~.!9IO\t\t~'&(~.!:T~%!;ABRT~-'8LD~%!;CHLD^",
    ",%N5SIGRTMIN^+(k0~)!9^(&,6~R,p^'(G'^>'mC~,,T^((k1~7,v~)!C~Z,y~)%e~QXc^+%6UERR\t~%]d^,%>e^&&Rn~,!KDFL~4!K 0~.!KIGN~5!K^1&ShX^.&9RSIG_HOLD~3!c^+&Sc~-(F~*%FINT^+'S",
    "G~%!5LL\t\t4~,!5ABRT\t\t6~,!6FPE\t\t8~,!5SEGV^-(vVSIGTERM\t\t15~.%CHUP^+'U!\tSIGQUIT^+'Ti~%!bRAP\t\t5~,!6~%X8\t9~,!6^&(s91~-!a~%.K\t14~/&g~2-M\t~7-M\t~1-M~*,-~;",
    "3w~+.l_NSIG\t\t(~*-j +~&)G~N-lstack~G6[^&&&=~3-_~'!<^j%=&~('&this file~)-n.  U~5-o^3()KMIN~&6pSZ\t2048~170SZ\t819^R%Ac^&%b6~G'X^*%UI~0'Y~(!=\t~H'Z^B%V?~X'U^4'|8",
    "^*%Lb~&+H^,''7^)%gbigmask^(&/fhow^)'&h~%>S^,%MP*~%|/trict __newmask~)!S~9!M^'%%K)^+'(s~3%Ykill (~(!1t __~&!.i^)'+zsigno^,')f^3'Nc~5&_queue~D%+~)&G~'&z^&%sZsigva",
    "l^((WN~+%P~UBks^&%Q.~E+NS_FLAG~3pO~)!<~|/-~N+Q~*Z4S^)%QN~&Id~(/+~)!;\t~*!.~&!TDIS^&(/h~*!O~'!6\t~+!B~Qx|ta^8%MD~/':STAT~0'S^7'.M~/5Y~%%2~2<My~*!>^A&Bt~&%L~0)Z~%",
    "!8^3&5R^'(.i~'%,~,;*__S_IFMT\t017^(%S4~-!>DIR\t0^((%*~-!=CHR\t0^(((p~-!=BLK\t006~3!=REG^*((h~-!=IFO\t0^((!?~-!=LNK\t01~4%7SOCK\t01~&%p~,9P_S_TYPEISMQ(buf)  (~%!",
    "+->st_mode - ~.!4)~3!dSEM~&!e~V!dH~J!d~0(HSUID^&(*o~/!;GID^&(+m~/!;VTX~&()~.!;~%v:^&(1f~,!:^''YL2~0!;^&'YF100~/3QAT^.((mUTIME_NOW\t((1l << 30) - 1l)~0!IOMIT~/!J",
    "2l^V&2ystdint-int^F%j?TDINT_INT^3%jB~,!?~3-]^*%Vi^*%+kint8_t ~&!*;~.!<16~&!=16~1!>32~&!>32~1!>64~&!>64_t;~U'1least~K'2LEAST~8'3~'!A~='4~.&:_~%%O~'';~)!0;~4!I~('",
    "H~*!1~5!K~('T~*!1~5!K~('c~*!1;~-%ou~-%pu~8%qu~.%ru~9%su~.%tu~9%uu~.%vu~0%w~S)eu~O,tU~<,uU~N,vu~',wu~2,x^)(o2u~3,z^)%?2u~3-!^)%A7u~Z-&o^9&j?~2'9O_LIM~5'6~'!=~.U-",
    "~%!;~B;O~)%S~2;Ttdi^8(MW~(xeILE^))&R4096~P''~%;[mutex~>'*^-&9a^)'(V~+'1~7!E 1^*%E3^0&;*~%BB^((|gc^.%S/^('.:u^&%d<~&!2owner^6'1]~/!_nusers^-%ud~&!<kind~6!i^(%L%s",
    "pins;~+!4elision^&%H_~(&>list~%H]lis^.%<f^.&=8HAVE_PREV~%Hm^)&rr~9&,^8%LO^''H5^('1v^+%La~(%y~)&3~-!9~)&8~+%u~%!N~*&U_data.~(!i~,!M~'!E~3!O~'!3~%%=$~/!D^)'I2~(LD",
    "~/'T^&'I=~H'Y^)%v*^-'Kl^4'P(~.!nINITIALIZER(~&)y^&&140,~*!&~&!;~(!1@~%!+ $^2&S-~P%)~+%&@~)%%~%%'~T><~%/'^&&>L^7&[v~(/)^'&AY~4.|~2!>`^>&C!^2'k+__read~',&~/!=writ",
    "~8!=phase_futex~:!a~9!Dpa^&'AT~2!:4~6/M~'0nur~'%*~*0s^&&PZ~%/c^+'m(__rw~+-S~&!y __ILP32~.18~'!Tpa^'%qj^-'w;^.&F8ELISION_EXTRA~*+3~'+6 ~005~,%)7~Y%)~,!&~&%5^'%Cu",
    "^2&S;~%%:2^&%pK^4'gt^('W3`~3%x^2%]_~'!<~D(3~5&r2;~5)6~Q0)~),j~,/!^''cG~00+~.07~<(5~'!G~%!o~:0L~S%L~'!C~,!8~]0S~8Vp~rVq~,UQ~bVxRUCT~8W'~+!?\t~*=*sta^))'G~*PL~%Om",
    "BITS64^2%()~*&+_time64_helper^&%(/^*&6kdev_t st_dev;^,'ps^6'L0^,'I)pad1;^-'mm^4%WW||^=(V;^-))Vst^&)&s~)0X~*!>__~+!A~)%A~4&'^&'nb~&!umod^)'cfnlink~&!:~%!.~/%6~2!",
    "C~6!t~*19^&%fUd~&!Au^&'d8  __g~(!7gid~*49~/%y~)'n0~0!z~)(ir~V(j2~l(j^&'iZst^'&.a~-'U^('gH~,!B~+&>blk^('zVt~(!0;~9%b~H%cblkcnt~(!|ocks~/%h~&!E~(%k~+!G^3'um^*%8o~",
    "%!!~*DU timespec st_atim;~8!Am~<!Ac~%!A~*8a~'!t~)!,.tv_sec~.!Fm~(!Fm~8!Fc~(!Fc~-!F~+',tim~'(L~%%?~(+osyscall_ulong~+!Dnsec;~1!bm~?!bm~:!bc~?!bc~*!b~2(q~//P~(!fs",
    "~'!f^0%qY~'=|^*(%w^='rM~4<M~.!w4;~H!M5^*(%S ^-)5D~*2/^0(%H~(-O^='rd~,6+^''rd~.,:~.6.~N6/ ~;60~8(U~0&S~Q3e~*%D~2Ei1;~75s~Q5T~R4w~C4x~54p~73N~5(+~*!V~2&x2;~:4(~D4",
    ")~>2|~|2t~?2t~|1c~|1c~*1c~)/,~c1e~N0>^/(%)~(qaSTATBUF_ST_BLK^&'8H~(Cl~+!?RDEV`~5!=NSEC~NG:^5'&X~DaxSHARE^&)B?S~3av~.!C^,)>S~0%&^4'8C^,'67>~1!I^5)da~%|g^/'m6~+U=",
    "internal~%Z>^6&ve~-!G *__pr~&/H~C!Nnext^&)cG~.b6;~E%es~D%fs~:%9s~)%:~=(-~.ga>~D!O~(Z0~&!P^7'!e^'&0.~3(j __wseq;~;!Dg1^*(.p~/3[g_refs[2]^1'2:~5!Qsize^'&2P~0!?1_o",
    "rig^)&PJ~1Z<efs~7!zgnals~%%%$;^7'-&__tss~,oi~4=&thrd~3*7~+jydata^1'-U~&)jonce~%S4^+(+C~'!NFLAG~%T( @~%XW~N0*ime^9'];~.Qc~%=b~0QY~&!8~>yk~&!s^)%Y<OCKS_PER_SEC^&&",
    "sd^'&+=) ^'&bV^&%H6 (~+I]STRICT_ANSI~&Kc~.IzPOSIX~&Vt~.U3^/'*t^>'HQ)~+i[CLK_TCK~.%s~+!S2^,'8T~,:T^+&ll`~,!v^'(l/L^&'PA\t0~1!AMONOTONIC\t~%'z~.!APROCESS_CP^&%+?I",
    "D\t2~1!I~'4X~+!H3~:%5_RAW\t^-(np~.%w_COARSE\t\t5~;!k~(!H6~1!HBOOT~'&j7~:%3ALARM\t\t8~9!f~(!F~2'wTAI\t\t\t1^-(ZR^&'Z0ABS~'%J1^<(q:~/,3im~'3I^/(Ta^,%?m~&*4adj~%N)",
    "~(*F~%DJ~(*Ri^*(Fh~%!z *__utx^)%?M __nonnull((2))~0IU~/[2~)S.(^*(M]_NTH)^6(Mz_NTH (~-%y,~9%z~'tR~F!!~4&N~=!h~(%7~'%V64)~1&x~)N]~')<~.(0~1!h~0MB^.'SQ~SeP~&%%^D%(",
    "/~)>z~<e2~(!u~5e-~(3D~:e.\t~*4164~*4I~/!:\t1~(gA^+);Y^&''Q~,i[~'!ST~%&5\t\t~&!4~'!2~(mN~<!SSQUAD~(!R~S(+~9D2`^1%_O~/D-~.!9\t^I*!'^,'+-#~2(n~(!>~3;S~'oRu_char;^<",
    "(=E__u_~%!1;~8<Eu_in~?<Eu_long^,%5O~.%X^0%1_~1%|~0!E~3%z^1%20~6&I~1!K~-&H^1%2Y~0&k~)!E#^<'/=~2')^)%3A~='O~)!J~&,0^6'/Ss^6*/J~)!c~6!Z^9*0-~,%E^/'Hk~((p^/%<M;^3%7",
    "'^/%;&^4%A,^/%<p^5%7S^0%;G^4%AZ^/%=9^5%8)^0%;i^4%B2^/%=[^5%8U^0%<0;~)1j^C'5?qu^&'Ra~>-I~(!J~<)u~0)2~(!X~Q)m~+%<^*'GY~F&Hintmax~E,D~'!K~M&K~*!Z~T,>~)%?^<(:c~/H3\t",
    "__S16~'62~)0R~+JaU~)!B~21!~,!l32~'!K~/!f~)!;~,0v~+!ESLONGWOR~&7U\t~(&O~,!j~.!F~1(B~3)9^/'dF~)8c\t\t~),|~,!EU~-!Eu~3!FS~*%P~&&_~+!d~+!>~.&c ~.&d~)'1~*&4 ~.&d~2'T",
    "~4!OS64~=&I~+!C~)&G~-<0ST~*&l~3+<^))tx^1'm]~5(%~5&J~+!D~>&H~+'h~5!p~4(0~5!p~-'k~G(0~9(+~5%Z~)!B~2%X~6(0~+'z~%F2~%D1^*'7!~2S5iz~5>z~)DO```~*%/ __DEV~'BR~(l=;~.!E",
    "UID~*!E~%n4~/!EG~,!Eg~3!E^&*)+~'!0~%os~2!E~)D/~*gg~/!IMODE~*!H^((PD~-!GNLINK~*!H~'p[~/!I^&*+4~'!0~%oP~2!E~,%a~'o'~/!IP~,&tp~3&tFS~,!Ffs~3!G~'Q2~(!2^)&cN~-!IRLIM",
    "~*!Hrlim~5!G~,&-rlim~3&.~,%c~3%a~+I/~)n&~0*6SECONDS~+*;seconds~1!OS~2!Ps~C!Q~,&B~)!S~'<o~.,9ADDR~+,;addr~1%&KEY~*!G^)'ks~2(W~,'A~)RA~1!O~&Uz~-'Ir~3!K~'o=~*!M~)u",
    "P~&hx~0!QCNT~-!Pcnt~1&E~&!K~,'E~*v4~1%QFS~0%%fs~7%'~(!O~,%)~(!Q~7%+FIL~/%+fil~6%+~&!O~.%+~&!Q~7%+~&56~*!Qwo~'gb~.*Y~.(2s~*(0~.!KYSCALL~&5g~)!Q~.uY;~7!XU~4!Xu~)!",
    "X~,I!^+)*4~'1+~(!?^())Yc~(+w~0%<~)8)~&BSpt~4!J~(?C __socklen^0'iU^)%|,~(n?~'!D~4UB^.*:/LIB^-)rD~&6c~%&I~&02~);_^/)pl~1-H~,)h~(!m;^2(aJ~(!Z~SUn~&8m~kYy~+9j~bZ!YP",
    "~%'=~7W4~&!=~&Z*^<&vb~*!9^(%N?~,<N~1,K~/Yo~2!OU~,!OU~,ZC^0(.c~5%+~-G!~C%/~/!S^/%d,~,=P\t~/%b~*?a~)4h~%!G~',y~+!EG~A!E~*=R~%_:~1&!~.!O~-_k~5%e~+=]~.%B^<%NU~,=q~8",
    "%W~*!R~-3&\t~4(d~2)0~0%1U~5)'~1%)~1(v~+w.~)?U\t~7%T~,!O~9dQ~)!IP~-))S~2))~+>n~B)*~->w~9)+~-9-~B&B~/90~8&D~/:0~A&%~1:4~8&(~/:,~C%'~/:0~8%'~A-Q~,Df~B'L~+CV~B!P~/C",
    "2~6%NS~2!J~=%!~2C]~8)'~,CT~7+J~*CR~7!E~.CP~6!H~,CI\t^&'km*~.+-~+>1~A&[~+Ir\t\t~'tE@~';cval[2]; $~,'6~,%+~//Y~*&BPU_MASK~&:v~6+0~32L~.U8^5*T0^.)Y/^7*T2~0!I~'/s~(",
    "!J~(/S~0!KSTATFS~)!K~&!264  ~/!L^&''J_OLD~%(bVAL~)!X~'!364^4(iJ~8%W0~G%V0~S%U0^3(cL^'('4SIZE\t^)(c!~K?Juintn-identity^D%aw^_*v*~0%<^5'gRnetinet/in.h> or^>*Q=~.B",
    "D^&&)?^&(W,TY^1%1X~0!C ^A%1e^=*u*~'!.~(&K^/*u1x)`@^,*iGx;`$^?*r%~'!.~0!x~'nQ~M!x^'*l*~'!.~0!x~'H/~6!x~L*kwait^=&Gf^/%hbWAI^1%hbSTDLIB~AGS~+%9~5GSwait^A&]1WNOHAN",
    "G^,&XLWUNTRACED^&)fZ^g'vdW^(&q0~+j]W^'&sY~+fpW^*&q%~,!dNOWAIT\t0x^0*Df~+/zWNO^'';]   ^-'vG~+!HALL\t\t^+'wn~+!>CLONE^,*!*~I)m^&'hj~|)n~.)n~(%:~R)o~-qj~%(LSTATUS(",
    "~&!y)\t((~(!.^)*z5^'*xH~.!bTERMSIG~+!]~,![7f~/!SSTOP~,!S~5%M~.!WIF~&*C~*%2~2%G == 0)~-6)WIF^&&Q0~*!a^'(7C(^+%)z) (~1&- + 1~%&k1) >~-%&~&%b~',=~:'S~&%b~''!~(<2~*",
    ",N~,8eWIF~)!;~3'o== __W^*&z()^3%R,_WCOREDUMP~5(Y~'!DFLAG~/&F_EXITCODE(r^&)mfg)\t((ret^&+%d | (sig^*(;C~%!XSTOP~%!X~'!Ssig~)!S~&&r~+(W~*&4\t\t0xffff~0&2FLAG\t~%.",
    "A`"]

end CInspect.Includes
